import MergeNotes.Proofs.Document
import MergeNotes.Proofs.Plan

namespace MergeNotes.Git.Shared

open Update (Job Options Plan Author Call Outcome Reason entryOf plan deliver conclude)
open Changelog (addition endsWith lastLine? text?)

structure Commit where
  sha : String
  document : Option ByteArray

/-- The commits of a branch, the last one first. -/
abbrev Branch := List Commit

def document (tip : Branch) : Option ByteArray := tip.head?.bind (·.document)

/-- A clone of a repository, of which only this is used: a push is accepted exactly if its commit
was made on the tip of the remote, and a reset checks that tip out. -/
structure Clone where
  disk : Disk
  head : Branch
  fetched : List Branch := []

structure Clone.IsClean (p : Path) (tip : Branch) (c : Clone) : Prop where
  holds : c.disk.Holds p (document tip)
  head : c.head = tip

/-- How a clone may answer a call while the remote has that tip. -/
inductive Serves (p : Path) (tip : Branch) :
    (call : Call) → Clone → Except Failure call.Reply → Clone → Prop
  | lastLine (c : Clone) :
      Serves p tip .lastLine c ((Changelog.readLastLine c.disk p).mapError .disk) c
  | append (e : Entry) (c : Clone) :
      Serves p tip (.append e) c ((Changelog.append c.disk p e).1.mapError .disk)
        { c with disk := (Changelog.append c.disk p e).2 }
  | isChanged (q : Path) (c : Clone) (changed : Bool)
      (answer : changed = true ↔ (c.disk.read q).toOption ≠ document c.head) :
      Serves p tip (.isChanged q) c (.ok changed) c
  | commit (message : String) (q : Path) (author : Author) (c : Clone) (sha : String) :
      Serves p tip (.commit message q author) c (.ok sha)
        { c with head := ⟨sha, (c.disk.read q).toOption⟩ :: c.head }
  | accepted (remote branch : String) (token : Option String) (c : Clone)
      (onTip : ∃ commit, c.head = commit :: tip) :
      Serves p tip (.push remote branch token) c (.ok ()) c
  | rejected (remote branch : String) (token : Option String) (c : Clone) (failure : Failure)
      (offTip : ¬∃ commit, c.head = commit :: tip) :
      Serves p tip (.push remote branch token) c (.error failure) c
  | reset (remote branch : String) (token : Option String) (c c' : Clone)
      (clean : c'.IsClean p tip) (fetched : c'.fetched = tip :: c.fetched) :
      Serves p tip (.reset remote branch token) c (.ok ()) c'
  | ahead (remote branch : String) (c : Clone) (count : Option Nat) :
      Serves p tip (.ahead remote branch) c (.ok count) c
  /-- Any call but a push may fail for reasons of its own, whatever it leaves behind. -/
  | failed (call : Call) (c c' : Clone) (failure : Failure)
      (notPush : ∀ remote branch token, call ≠ .push remote branch token)
      (fetched : c'.fetched = c.fetched) :
      Serves p tip call c (.error failure) c'

def isAccepted : (call : Call) → Except Failure call.Reply → Bool
  | .push _ _ _, .ok _ => true
  | _, _ => false

structure Runner (p : Path) where
  config : Config
  event : Event
  options : Options
  today : Date
  path_eq : config.changelog.path = p

namespace Runner

variable {p : Path}

def plan (r : Runner p) : Plan Outcome := Update.plan r.config r.event r.options r.today

def due? (r : Runner p) : Option Entry :=
  match entryOf r.config r.event r.options r.today with
  | .ok (.ok e) => some e
  | _ => none

end Runner

variable {p : Path}

/-- There is one commit more than at the tip, by which an entry was added. -/
def Grows (e : Entry) (tip head : Branch) : Prop :=
  ∃ content sha, text? (document tip) = some content ∧
    head = ⟨sha, some (content ++ addition content e).toUTF8⟩ :: tip

theorem Grows.of_onTip {e : Entry} {tip tip' head : Branch} (h : Grows e tip head)
    (onTip : ∃ commit, head = commit :: tip') : Grows e tip' head := by
  obtain ⟨content, sha, htext, rfl⟩ := h
  obtain ⟨commit, hcommit⟩ := onTip
  cases hcommit
  exact ⟨content, sha, htext, rfl⟩

def Ends (e : Entry) (tip : Branch) : Prop :=
  ∃ content, text? (document tip) = some content ∧ endsWith (lastLine? content) e = true

/-- Whatever a clone answers, each push of a plan that is accepted adds an entry to the tip, and if
the plan ends well, then as described. -/
def Upholds {α : Type} (p : Path) (due? : Option Entry) (post : α → Clone → Prop) :
    Plan α → Clone → Prop
  | .done (.ok a), c => post a c
  | .done (.error _), _ => True
  | .call call next, c => ∀ tip reply c', Serves p tip call c reply c' →
      (isAccepted call reply = true → ∃ e ∈ due?, Grows e tip c'.head) ∧
        Upholds p due? post (next reply) c'

section Upholds

variable {α β : Type} {due? : Option Entry} {tip : Branch} {c : Clone} {job : Job}

theorem Upholds.bind {post : β → Clone → Prop} {f : α → Plan β} {plan : Plan α}
    (h : Upholds p due? (fun a c => Upholds p due? post (f a) c) plan c) :
    Upholds p due? post (plan.bind f) c := by
  induction plan generalizing c with
  | done r => cases r <;> exact h
  | call call next ih =>
    intro tip reply c' hserves
    obtain ⟨haccepted, hrest⟩ := h tip reply c' hserves
    exact ⟨haccepted, ih reply hrest⟩

theorem Upholds.mono {post post' : α → Clone → Prop} {plan : Plan α}
    (h : Upholds p due? post plan c) (hpost : ∀ a c', post a c' → post' a c') :
    Upholds p due? post' plan c := by
  induction plan generalizing c with
  | done r =>
    cases r with
    | error failure => trivial
    | ok a => exact hpost a c h
  | call call next ih =>
    intro tip reply c' hserves
    obtain ⟨haccepted, hrest⟩ := h tip reply c' hserves
    exact ⟨haccepted, ih reply hrest⟩

theorem upholds_ask {post : α → Clone → Prop} {call : Call} {next : call.Reply → Plan α}
    (hcall : ∀ reply, isAccepted call reply = false)
    (h : ∀ tip reply c', Serves p tip call c reply c' → ∀ r, reply = .ok r →
      Upholds p due? post (next r) c') :
    Upholds p due? post (.ask call next) c := by
  intro tip reply c' hserves
  refine ⟨fun haccepted => ?_, ?_⟩
  · rw [hcall] at haccepted
    cases haccepted
  · cases reply with
    | error failure => trivial
    | ok r => exact h tip (.ok r) c' hserves r rfl

theorem upholds_lastLine {post : α → Clone → Prop} {next : Option String → Plan α}
    (hclean : c.IsClean p tip)
    (hnext : ∀ content, text? (document tip) = some content →
      Upholds p due? post (next (lastLine? content)) c) :
    Upholds p due? post (.ask .lastLine next) c := by
  apply upholds_ask (fun _ => rfl)
  intro _ reply c' hserves last hlast
  cases hserves with
  | failed => cases hlast
  | lastLine =>
    cases hread : Changelog.readLastLine c.disk p with
    | error err =>
      rw [hread] at hlast
      cases hlast
    | ok last' =>
      rw [hread] at hlast
      cases hlast
      obtain ⟨content, hcontent, rfl⟩ := Changelog.readLastLine_eq_ok hread
      -- the last line that was read is that of the document at the tip
      exact hnext content (Changelog.readFile_eq_ok hclean.holds hcontent)

theorem upholds_append {post : α → Clone → Prop} {e : Entry} {next : Unit → Plan α}
    (hclean : c.IsClean p tip)
    (hnext : ∀ content disk, text? (document tip) = some content →
      disk.read p = .ok (content ++ addition content e).toUTF8 →
      Upholds p due? post (next ()) { c with disk }) :
    Upholds p due? post (.ask (.append e) next) c := by
  apply upholds_ask (fun _ => rfl)
  intro _ reply c' hserves _ hreply
  cases hserves with
  | failed => cases hreply
  | append =>
    rcases happend : Changelog.append c.disk p e with ⟨err | ⟨⟩, disk⟩
    · rw [happend] at hreply
      cases hreply
    · obtain ⟨content, hcontent, hdisk⟩ := Changelog.append_eq_ok hclean.holds happend
      exact hnext content disk (Changelog.readFile_eq_ok hclean.holds hcontent) hdisk

theorem upholds_record {post : α → Clone → Prop} {next : Bool → Plan α}
    (hclean : c.IsClean p tip)
    (hpresent : Ends job.entry tip → Upholds p due? post (next false) c)
    (hadded : ∀ content disk, text? (document tip) = some content →
      disk.read p = .ok (content ++ addition content job.entry).toUTF8 →
      Upholds p due? post (next true) { c with disk }) :
    Upholds p due? post (job.record next) c := by
  apply upholds_lastLine hclean
  intro content htext
  split_ifs with hend
  · exact hpresent ⟨content, htext, hend⟩
  · exact upholds_append hclean hadded

theorem upholds_isChanged {post : α → Clone → Prop} {q : Path} {next : Bool → Plan α}
    (hnext : ∀ changed : Bool, (changed = true ↔ (c.disk.read q).toOption ≠ document c.head) →
      Upholds p due? post (next changed) c) :
    Upholds p due? post (.ask (.isChanged q) next) c := by
  apply upholds_ask (fun _ => rfl)
  intro _ reply c' hserves changed hreply
  cases hserves with
  | failed => cases hreply
  | isChanged _ _ _ answer =>
    cases hreply
    exact hnext changed answer

theorem upholds_commit {post : α → Clone → Prop} {message : String} {q : Path} {author : Author}
    {next : String → Plan α}
    (hnext : ∀ sha, Upholds p due? post (next sha)
      { c with head := ⟨sha, (c.disk.read q).toOption⟩ :: c.head }) :
    Upholds p due? post (.ask (.commit message q author) next) c := by
  apply upholds_ask (fun _ => rfl)
  intro _ reply c' hserves sha hreply
  cases hserves with
  | failed => cases hreply
  | commit =>
    cases hreply
    exact hnext sha

/-- An attempt on a clean clone commits the entry added to the tip, or finds it there. -/
theorem upholds_attempt (job : Job) {message : Except Failure String} {author : Author}
    (hp : job.path = p) (hclean : c.IsClean p tip) :
    Upholds p due? (fun attempt c' => c'.fetched = c.fetched ∧
      (attempt.commit? = none → Ends job.entry tip) ∧
      (attempt.commit? ≠ none → Grows job.entry tip c'.head)) (job.attempt message author) c := by
  apply upholds_record hclean
  · intro hends
    apply upholds_isChanged
    intro changed answer
    -- nothing was written, so the document is the one that is committed
    rw [hp, hclean.holds.toOption_read, hclean.head] at answer
    rw [if_neg (by simp [answer])]
    exact ⟨rfl, fun _ => hends, by simp⟩
  · intro content disk htext hread
    apply upholds_isChanged
    intro changed answer
    rw [hp, hread, hclean.head] at answer
    have hchanged : changed = true := by
      rw [answer]
      -- the committed document lacks what was added
      intro heq
      rw [← heq] at htext
      have h := (Changelog.text?_toUTF8 htext).symm
      simp [Changelog.addition_ne_empty] at h
    rw [if_pos hchanged]
    cases message with
    | error err => trivial
    | ok m =>
      apply upholds_commit
      refine fun sha => ⟨rfl, by simp, fun _ => ⟨content, sha, htext, ?_⟩⟩
      rw [hp, hread, hclean.head]
      rfl

/-- A run that stopped because of the remote fetched a tip that ends with its entry. -/
def Reports (due? : Option Entry) (o : Outcome) (c : Clone) : Prop :=
  o.skippedReason = some Reason.alreadyOnRemote.message →
    ∃ e ∈ due?, ∃ tip ∈ c.fetched, Ends e tip

theorem upholds_push_of_retry {message : String} {author : Author} {n : Nat} {o : Outcome}
    (ho : o.skippedReason = none) (hgrows : Grows job.entry tip c.head)
    (hretry : ∀ k, n = k + 1 →
      Upholds p (some job.entry) (Reports (some job.entry)) (job.retry message author k o) c) :
    Upholds p (some job.entry) (Reports (some job.entry)) (job.push message author n o) c := by
  rw [Job.push_eq]
  intro tip' reply c' hserves
  cases hserves with
  | accepted remote branch token _ onTip =>
    exact ⟨fun _ => ⟨_, rfl, hgrows.of_onTip onTip⟩, by simp [Upholds, Reports, ho]⟩
  | rejected =>
    refine ⟨by nofun, ?_⟩
    cases n with
    | zero => trivial
    | succ k => exact hretry k rfl
  | failed _ _ _ _ notPush => exact absurd rfl (notPush _ _ _)

theorem upholds_push (job : Job) {message : String} {author : Author} {n : Nat} {o : Outcome}
    (hp : job.path = p) (ho : o.skippedReason = none) (hgrows : Grows job.entry tip c.head) :
    Upholds p (some job.entry) (Reports (some job.entry)) (job.push message author n o) c := by
  -- after a reset the clone is clean at the tip that was fetched, with one retry less
  induction n generalizing o tip c with
  | zero => exact upholds_push_of_retry ho hgrows (by nofun)
  | succ n ih =>
    apply upholds_push_of_retry ho hgrows
    rintro k ⟨⟩
    apply upholds_ask (fun _ => rfl)
    intro fetched reply c₁ hserves r hreply
    cases hserves with
    | failed => cases hreply
    | reset _ _ _ _ _ clean hfetched =>
      -- the retry is an attempt on the tip that was fetched
      apply Upholds.bind
      apply (upholds_attempt job hp clean).mono
      rintro ⟨appended, _ | ⟨m, sha⟩⟩ c₂ ⟨hkeeps, hends, hcommit⟩
      · intro _
        refine ⟨_, rfl, fetched, ?_, hends rfl⟩
        rw [hkeeps, hfetched]
        exact List.mem_cons_self
      · exact ih ho (hcommit (Option.some_ne_none _))

theorem upholds_deliver {config : Config} {event : Event} {options : Options} {e : Entry}
    (hp : config.changelog.path = p) (hclean : c.IsClean p tip) :
    Upholds p (some e) (Reports (some e)) (deliver config event options e) c := by
  have hjob : (Job.ofConfig config event options e).path = p := hp
  rw [Update.deliver_eq]
  apply Upholds.bind
  apply (upholds_attempt (Job.ofConfig config event options e) hjob hclean).mono
  rintro ⟨appended, _ | ⟨m, sha⟩⟩ c' ⟨-, -, hcommit⟩
  · apply upholds_ask (fun _ => rfl)
    intro _ _ _ _ count _ hreason
    exact absurd (Option.some.inj hreason) (Update.unchangedReason_message_ne _ count)
  · simp only [conclude]
    split_ifs
    · have hgrows := hcommit (Option.some_ne_none _)
      exact upholds_push (Job.ofConfig config event options e) hjob rfl hgrows
    · intro hreason
      cases hreason

theorem upholds_plan (r : Runner p) (hclean : c.IsClean p tip) :
    Upholds p r.due? (Reports r.due?) r.plan c := by
  unfold Runner.plan Runner.due? Update.plan
  cases hentry : entryOf r.config r.event r.options r.today with
  | error failure => trivial
  | ok found =>
    cases found with
    | error reason =>
      intro hreason
      exact absurd (Option.some.inj hreason) (Update.entryOf_reason_ne hentry)
    | ok e => exact upholds_deliver r.path_eq hclean

end Upholds

end MergeNotes.Git.Shared
