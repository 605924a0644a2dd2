import MergeNotes.Proofs.Protocol
import MergeNotes.Proofs.References
import MergeNotes.Proofs.Skipped
import MergeNotes.Request

namespace MergeNotes

namespace Git.Host

open Octets (AreBytes)

variable {h : Host} {root : Path} {r : Repository} {branch : String}

def IsOn (h : Host) (r : Repository) (branch : String) : Prop :=
  Reference.read h.disk r headName = .ok (.symbolic (Octets.ofText (branchName branch)))

instance (h : Host) (r : Repository) (branch : String) : Decidable (h.IsOn r branch) :=
  inferInstanceAs (Decidable (_ = _))

inductive Named (h : Host) (r : Repository) (branch : String) : Prop
  /-- The head is a commit, and goes by its own name. -/
  | detached {sha : Sha} (head : Reference.read h.disk r headName = .ok (.direct sha))
      (name : branch = "HEAD")
  /-- The head leads to a commit, and the reference that has it lends its name. -/
  | born {name reference : Reference.Name} {sha : Sha}
      (head : Reference.read h.disk r headName = .ok (.symbolic name))
      (resolve : Reference.resolve h.disk r name = .ok (reference, sha))
      (short : Octets.text? (Reference.shorthand reference) = some branch)
  | unborn {name : Reference.Name}
      (head : Reference.read h.disk r headName = .ok (.symbolic name))
      (resolve : Reference.resolve h.disk r name = .error .missing)
      (short : Octets.text? ((Chars.dropPrefix? "refs/heads/".toList name).getD name) = some branch)

theorem branchText_eq_ok {failure : Failure} {name : Octets}
    (hb : branchText failure name = .ok branch) : Octets.text? name = some branch := by
  unfold branchText at hb
  cases htext : Octets.text? name <;> rw [htext] at hb <;> cases hb
  rfl

theorem named_of_currentBranch (hb : h.currentBranch root = .ok branch) :
    ∃ r, h.repository root = .ok r ∧ h.Named r branch := by
  obtain ⟨r, hr, hb⟩ := bind_eq_ok.1 hb
  refine ⟨r, hr, ?_⟩
  unfold head at hb
  split at hb
  · rename_i reference sha hhead
    have hshort := branchText_eq_ok hb
    split at hhead
    · cases hhead
    · cases hhead
      have hname : Octets.text? (Reference.shorthand headName) = some "HEAD" := by decide +kernel
      rw [hshort] at hname
      exact .detached (by assumption) (Option.some.inj hname)
    · split at hhead <;> cases hhead
      exact .born (by assumption) (by assumption) hshort
  · rename_i name hhead
    split at hhead
    · cases hhead
    · cases hhead
    · split at hhead <;> cases hhead
      exact .unborn (by assumption) (by assumption) (branchText_eq_ok hb)
  · cases hb

theorem ofText_branchName (branch : String) :
    Octets.ofText (branchName branch) = "refs/heads/".toList ++ Octets.ofText branch := by
  have hstart : Octets.ofText "refs/heads/" = "refs/heads/".toList := by decide +kernel
  rw [branchName, Octets.ofText_append, hstart]

/-- The head names a branch. If that leads to a commit, the reference that has the commit goes by
the same short name. -/
def NamesBranch (h : Host) (r : Repository) : Prop :=
  ∃ short, Reference.read h.disk r headName = .ok (.symbolic ("refs/heads/".toList ++ short)) ∧
    ∀ reference sha,
      Reference.resolve h.disk r ("refs/heads/".toList ++ short) = .ok (reference, sha) →
        Reference.shorthand reference = short

theorem isOn_iff_of_named (hb : h.Named r branch) : h.IsOn r branch ↔ h.NamesBranch r := by
  rw [IsOn, ofText_branchName]
  -- the head is read once, so each case compares two results of one reading
  constructor
  · intro hon
    refine ⟨_, hon, fun reference sha hresolve => ?_⟩
    cases hb with
    | detached head =>
      rw [hon] at head
      cases head
    | born head resolve short =>
      rw [hon] at head
      cases head
      rw [hresolve] at resolve
      cases resolve
      have hbytes := Reference.areBytes_of_resolve (Reference.areBytes_of_read hon) hresolve
      exact (Octets.ofText_of_text? (Reference.areBytes_shorthand hbytes) short).symm
    | unborn head resolve =>
      rw [hon] at head
      cases head
      rw [hresolve] at resolve
      cases resolve
  · rintro ⟨short, hhead, hshort⟩
    have hbytes : AreBytes short := (Reference.areBytes_of_read hhead).mono
      (List.subset_append_right _ _)
    cases hb with
    | detached head =>
      rw [hhead] at head
      cases head
    | born head resolve name =>
      rw [hhead] at head
      cases head
      rw [hshort _ _ resolve] at name
      rw [hhead, Octets.ofText_of_text? hbytes name]
    | unborn head resolve name =>
      rw [hhead] at head
      cases head
      have hdrop : Chars.dropPrefix? "refs/heads/".toList ("refs/heads/".toList ++ short) =
          some short := by
        simp [Chars.dropPrefix?]
      rw [hdrop, Option.getD_some] at name
      rw [hhead, Octets.ofText_of_text? hbytes name]

theorem pushes_of_ran {t : Terms} {log : Log} {h' : Host} (hran : Ran t h log h') :
    ∃ made, h'.executable.calls = h.executable.calls ++ made ∧
      ∀ i ∈ made, i.args.head? = some "push" →
        i.args = ["push", t.remote, "HEAD:" ++ branchName t.branch] := by
  refine ⟨_, hran.calls_eq, fun i hi hpush => ?_⟩
  obtain ⟨⟨c, reply⟩, -, rfl⟩ := List.mem_map.1 hi
  cases c with
  | push =>
    rw [branchName, ← String.append_assoc]
    rfl
  | _ => simp [Terms.invocation] at hpush

theorem pushes_of_request {q : Request} {text : String} {number : Option UInt64}
    (hb : h.currentBranch root = .ok branch) (hroot : q.repository = root)
    (hsource : q.source = .description text none number) (environment : Environment)
    (today : Date) :
    ∃ made, (q.run environment today h).2.executable.calls = h.executable.calls ++ made ∧
      ∀ i ∈ made, i.args.head? = some "push" →
        i.args.getLast? = some ("HEAD:" ++ branchName branch) := by
  have hevent : q.event h = .ok (.ofDescription text branch number) := by
    rw [Request.event, hsource]
    show (do return Event.ofDescription text (← Request.branch h q.repository none) number) = _
    rw [hroot, Request.branch, hb]
    rfl
  rw [Request.run, hevent]
  split
  · exact ⟨[], by simp, nofun⟩
  · rename_i config _
    obtain ⟨message, log, hran⟩ := exists_ran_of_run h q.repository config
      (.ofDescription text branch number) (q.options environment config) today
    obtain ⟨made, hmade, hpush⟩ := pushes_of_ran hran
    exact ⟨made, hmade, fun i hi hi' => by rw [hpush i hi hi']; rfl⟩

/-- The current branch is the one that the head is a reference to, exactly if the head names a
branch whose short name is that of the reference at its end. Either way a description without a
branch is pushed to the current branch and to no other. -/
theorem currentBranch_isOn_iff (hb : h.currentBranch root = .ok branch) :
    ∃ r, h.repository root = .ok r ∧ (h.IsOn r branch ↔ h.NamesBranch r) ∧
      ∀ (q : Request) environment today text number, q.repository = root →
        q.source = .description text none number →
          ∃ made, (q.run environment today h).2.executable.calls = h.executable.calls ++ made ∧
            ∀ i ∈ made, i.args.head? = some "push" →
              i.args.getLast? = some ("HEAD:" ++ branchName branch) := by
  obtain ⟨r, hr, hnamed⟩ := named_of_currentBranch hb
  exact ⟨r, hr, isOn_iff_of_named hnamed, fun q environment today text number hroot hsource =>
    pushes_of_request hb hroot hsource environment today⟩

def headed (head packed : String) : Host where
  disk := ⟨[([".git".toList], .directory), ([".git".toList, "objects".toList], .directory),
    ([".git".toList, "refs".toList], .directory),
    ([".git".toList, "HEAD".toList], .file head.toUTF8),
    ([".git".toList, "packed-refs".toList], .file packed.toUTF8)], []⟩

def onBranch : Host :=
  headed "ref: refs/heads/next/v2\n"
    "0123456789abcdef0123456789abcdef01234567 refs/heads/next/v2\n"

theorem currentBranch_isOn_iff_packed :
    onBranch.currentBranch ⟨"."⟩ = .ok "next/v2" ∧
      ∃ r, onBranch.repository ⟨"."⟩ = .ok r ∧ onBranch.IsOn r "next/v2" := by
  have hb : onBranch.currentBranch ⟨"."⟩ = .ok "next/v2" := by decide +kernel
  obtain ⟨r, hr, hiff, -⟩ := currentBranch_isOn_iff hb
  obtain rfl : ⟨[".git".toList], []⟩ = r := Except.ok.inj hr
  refine ⟨hb, _, hr, hiff.2 ⟨"next/v2".toList, by decide +kernel, fun reference sha hresolve => ?_⟩⟩
  have hpacked : Reference.resolve onBranch.disk ⟨[".git".toList], []⟩
      ("refs/heads/".toList ++ "next/v2".toList) =
        .ok ("refs/heads/next/v2".toList, "0123456789abcdef0123456789abcdef01234567") := by
    decide +kernel
  rw [hpacked] at hresolve
  cases hresolve
  decide +kernel

def onCommit : Host := headed "0123456789abcdef0123456789abcdef01234567\n" ""

/-- A head that names no branch is taken for a branch of the name that it has itself. -/
theorem currentBranch_detached :
    onCommit.currentBranch ⟨"."⟩ = .ok "HEAD" ∧
      ∃ r, onCommit.repository ⟨"."⟩ = .ok r ∧ ¬onCommit.IsOn r "HEAD" :=
  ⟨by decide +kernel, ⟨[".git".toList], []⟩, rfl, by decide +kernel⟩

end Git.Host
end MergeNotes
