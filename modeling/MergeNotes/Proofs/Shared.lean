import MergeNotes.Proofs.Clone

namespace MergeNotes.Git.Shared

open Update (Plan Call Outcome Reason)
open Changelog (extended finished text?)

/-- A remote, whose pushes it accepted in order, and how far each run is. -/
structure World (ι : Type) where
  tip : Branch
  accepted : List ι := []
  /-- The clone of a run that has started, and what is left of its plan. -/
  runs : ι → Option (Clone × Plan Outcome) := fun _ => none

variable {ι : Type} [DecidableEq ι] {p : Path}

def World.answer (w : World ι) (i : ι) (call : Call) (reply : Except Failure call.Reply)
    (c : Clone) (rest : Plan Outcome) : World ι where
  tip := if isAccepted call reply then c.head else w.tip
  accepted := if isAccepted call reply then w.accepted ++ [i] else w.accepted
  runs := Function.update w.runs i (some (c, rest))

/-- One run starts from a tip that the remote has or had, or has its next call answered. -/
inductive Step (runner : ι → Runner p) (w : World ι) : World ι → Prop
  | start (i : ι) (past : Branch) (c : Clone) (idle : w.runs i = none) (suffix : past <:+ w.tip)
      (clean : c.IsClean p past) (unfetched : c.fetched = []) :
      Step runner w { w with runs := Function.update w.runs i (some (c, (runner i).plan)) }
  | serve (i : ι) (c c' : Clone) (call : Call) (next : Except Failure call.Reply → Plan Outcome)
      (reply : Except Failure call.Reply) (turn : w.runs i = some (c, .call call next))
      (serves : Serves p w.tip call c reply c') :
      Step runner w (w.answer i call reply c' (next reply))

theorem document_cons (commit : Commit) (tip : Branch) :
    document (commit :: tip) = commit.document := rfl

theorem Serves.mem_fetched {tip t : Branch} {call : Call} {reply : Except Failure call.Reply}
    {c c' : Clone} (h : Serves p tip call c reply c') (ht : t ∈ c'.fetched) :
    t ∈ c.fetched ∨ t = tip := by
  cases h with
  | reset _ _ _ _ _ _ fetched =>
    rw [fetched, List.mem_cons] at ht
    exact ht.symm
  | failed _ _ _ _ _ fetched =>
    rw [fetched] at ht
    exact .inl ht
  | _ => exact .inl ht

structure Extends (base : Branch) (entries : List Entry) (tip : Branch) : Prop where
  same : entries = [] → document tip = document base
  added : entries ≠ [] → ∃ content, text? (document base) = some content ∧
    document tip = some (extended content entries).toUTF8

theorem Extends.concat {base tip head : Branch} {entries : List Entry} {e : Entry}
    (h : Extends base entries tip) (hgrows : Grows e tip head) :
    Extends base (entries ++ [e]) head := by
  obtain ⟨content, sha, htext, rfl⟩ := hgrows
  refine ⟨by simp, fun _ => ?_⟩
  by_cases hentries : entries = []
  · -- the first entry finishes the last line of the base
    refine ⟨content, by rw [← h.same hentries, htext], ?_⟩
    rw [hentries, document_cons]
    rfl
  · obtain ⟨first, hfirst, htip⟩ := h.added hentries
    rw [htip] at htext
    obtain rfl := Changelog.text?_toUTF8 htext
    exact ⟨first, hfirst, by rw [Changelog.extended_concat, document_cons]⟩

/-- What holds at every moment: the remote has the entries of the pushes it accepted, and what is
left of each run upholds what is asked of runs. -/
structure Invariant (runner : ι → Runner p) (base : Branch) (w : World ι) : Prop where
  extends_base : ∃ entries : List Entry,
    w.accepted.map (fun i => (runner i).due?) = entries.map some ∧ Extends base entries w.tip
  upholds : ∀ i c plan, w.runs i = some (c, plan) →
    Upholds p (runner i).due? (Reports (runner i).due?) plan c
  fetched : ∀ i c plan, w.runs i = some (c, plan) → ∀ tip ∈ c.fetched, tip <:+ w.tip

theorem update_eq_some {α : Type} {runs : ι → Option α} {i j : ι} {a b : α}
    (h : Function.update runs i (some a) j = some b) : j = i ∧ b = a ∨ runs j = some b := by
  rw [Function.update_apply] at h
  split_ifs at h with hji
  · exact .inl ⟨hji, (Option.some.inj h).symm⟩
  · exact .inr h

variable {runner : ι → Runner p} {base : Branch} {w w' : World ι}

omit [DecidableEq ι] in
theorem invariant_initial : Invariant runner base { tip := base } where
  extends_base := ⟨[], rfl, fun _ => rfl, fun h => absurd rfl h⟩
  upholds := by nofun
  fetched := by nofun

theorem Invariant.start {i : ι} {past : Branch} {c : Clone} (h : Invariant runner base w)
    (clean : c.IsClean p past) (unfetched : c.fetched = []) :
    Invariant runner base
      { w with runs := Function.update w.runs i (some (c, (runner i).plan)) } where
  extends_base := h.extends_base
  upholds j c' plan hj := by
    rcases update_eq_some hj with ⟨rfl, heq⟩ | hj
    · cases heq
      exact upholds_plan (runner j) clean
    · exact h.upholds j c' plan hj
  fetched j c' plan hj := by
    rcases update_eq_some hj with ⟨rfl, heq⟩ | hj
    · cases heq
      simp [unfetched]
    · exact h.fetched j c' plan hj

theorem Invariant.serve {i : ι} {c c' : Clone} {call : Call}
    {next : Except Failure call.Reply → Plan Outcome} {reply : Except Failure call.Reply}
    (h : Invariant runner base w) (turn : w.runs i = some (c, .call call next))
    (serves : Serves p w.tip call c reply c') :
    Invariant runner base (w.answer i call reply c' (next reply)) := by
  obtain ⟨haccepted, hrest⟩ := h.upholds i c _ turn w.tip reply c' serves
  have htip : w.tip <:+ (w.answer i call reply c' (next reply)).tip := by
    rw [World.answer]
    split_ifs with hreply
    · obtain ⟨e, -, content, sha, -, hhead⟩ := haccepted hreply
      rw [hhead]
      exact List.suffix_cons _ _
    · exact List.suffix_rfl
  -- the tip changes only with an accepted push, which adds what the run owed
  constructor
  · rw [World.answer]
    obtain ⟨entries, hentries, hextends⟩ := h.extends_base
    split_ifs with hreply
    · obtain ⟨e, he, hgrows⟩ := haccepted hreply
      refine ⟨entries ++ [e], ?_, hextends.concat hgrows⟩
      rw [List.map_append, List.map_append, hentries]
      simpa using he
    · exact ⟨entries, hentries, hextends⟩
  · intro j d plan hj
    rcases update_eq_some hj with ⟨rfl, heq⟩ | hj
    · cases heq
      exact hrest
    · exact h.upholds j d plan hj
  · intro j d plan hj tip hmem
    -- the remote only grows, so a tip that it had stays one
    refine List.IsSuffix.trans ?_ htip
    rcases update_eq_some hj with ⟨rfl, heq⟩ | hj
    · cases heq
      rcases serves.mem_fetched hmem with hmem | rfl
      · exact h.fetched j c _ turn tip hmem
      · exact List.suffix_rfl
    · exact h.fetched j d plan hj tip hmem

theorem Invariant.step (h : Invariant runner base w) (hstep : Step runner w w') :
    Invariant runner base w' := by
  cases hstep with
  | start i past c idle suffix clean unfetched => exact h.start clean unfetched
  | serve i c c' call next reply turn serves => exact h.serve turn serves

theorem invariant_reachable (h : Relation.ReflTransGen (Step runner) { tip := base } w) :
    Invariant runner base w := by
  induction h with
  | refl => exact invariant_initial
  | tail _ hstep ih => exact ih.step hstep

def changelog : Path := ⟨"CHANGELOG.md"⟩

def checkout (tip : Branch) : Disk :=
  match document tip with
  | some b => Disk.put ⟨[], []⟩ ["CHANGELOG.md".toList] (.file b)
  | none => ⟨[], []⟩

theorem holds_checkout (tip : Branch) : (checkout tip).Holds changelog (document tip) := by
  unfold checkout
  cases document tip with
  | none => exact (rfl : Disk.fileAt? ⟨[], []⟩ ["CHANGELOG.md".toList] = none)
  | some b =>
    have htarget : Disk.fileTarget ⟨[], []⟩ changelog = .ok ["CHANGELOG.md".toList] := by
      decide +kernel
    have hwrite : Disk.write ⟨[], []⟩ changelog b =
        .ok (Disk.put ⟨[], []⟩ ["CHANGELOG.md".toList] (.file b)) := by
      rw [Disk.write, htarget]
      rfl
    exact (Disk.write_eq_ok hwrite).2

deriving instance BEq, ReflBEq, LawfulBEq for Commit

def reply (tip : Branch) : (call : Call) → Clone → Except Failure call.Reply × Clone
  | .lastLine, c => ((Changelog.readLastLine c.disk changelog).mapError .disk, c)
  | .append e, c =>
    let (r, disk) := Changelog.append c.disk changelog e
    (r.mapError .disk, { c with disk })
  | .isChanged q, c => (.ok ((c.disk.read q).toOption != document c.head), c)
  | .commit _ q _, c => (.ok "", { c with head := ⟨"", (c.disk.read q).toOption⟩ :: c.head })
  | .push remote branch _, c =>
    if c.head ≠ [] ∧ c.head.tail == tip then (.ok (), c)
    else (.error (.git ("push " ++ remote ++ " " ++ branch) "rejected"), c)
  | .reset _ _ _, c => (.ok (), ⟨checkout tip, tip, tip :: c.fetched⟩)
  | .ahead _ _, c => (.ok none, c)

theorem serves_reply (tip : Branch) (call : Call) (c : Clone) :
    Serves changelog tip call c (reply tip call c).1 (reply tip call c).2 := by
  cases call with
  | lastLine => exact .lastLine c
  | append e => exact .append e c
  | isChanged q => exact .isChanged q c _ bne_iff_ne
  | commit message q author => exact .commit message q author c ""
  | push remote branch token =>
    have honTip : (c.head ≠ [] ∧ c.head.tail == tip) ↔ ∃ commit, c.head = commit :: tip := by
      cases c.head with
      | nil => simp
      | cons commit rest => simp
    rw [reply]
    split_ifs with h
    · exact .accepted remote branch token c (honTip.1 h)
    · exact .rejected remote branch token c _ (mt honTip.2 h)
  | reset remote branch token => exact .reset remote branch token c _ ⟨holds_checkout tip, rfl⟩ rfl
  | ahead remote branch => exact .ahead remote branch c none

def World.turn (runner : ι → Runner changelog) (w : World ι) (i : ι) : World ι :=
  match w.runs i with
  | none =>
    { w with
      runs := Function.update w.runs i (some (⟨checkout w.tip, w.tip, []⟩, (runner i).plan)) }
  | some (c, .call call next) =>
    w.answer i call (reply w.tip call c).1 (reply w.tip call c).2 (next (reply w.tip call c).1)
  | some (_, .done _) => w

theorem reachable_turns (runner : ι → Runner changelog) (w : World ι) (turns : List ι) :
    Relation.ReflTransGen (Step runner) w (turns.foldl (World.turn runner) w) := by
  induction turns generalizing w with
  | nil => exact .refl
  | cons i turns ih =>
    have hturn : Relation.ReflTransGen (Step runner) w (w.turn runner i) := by
      unfold World.turn
      split
      · rename_i hidle
        exact .single (.start i w.tip _ hidle List.suffix_rfl ⟨holds_checkout w.tip, rfl⟩ rfl)
      · rename_i c call next hcall
        exact .single (.serve i c _ call next _ hcall (serves_reply w.tip call c))
      · exact .refl
    exact hturn.trans (ih _)

/-- No update is lost. At every moment the document of the remote is what it was at first, its last
line finished, and one line for each push that was accepted: the entry of that run, in the order of
acceptance. A run that stops because of the remote fetched a tip that ends with its entry. -/
theorem reachable_document (h : Relation.ReflTransGen (Step runner) { tip := base } w) :
    (∃ entries : List Entry, w.accepted.map (fun i => (runner i).due?) = entries.map some ∧
      (entries = [] → document w.tip = document base) ∧
      (entries ≠ [] → ∃ content text, text? (document base) = some content ∧
        document w.tip = some text.toUTF8 ∧
        text = finished content ++ String.join (entries.map fun e => e.text ++ "\n") ∧
        Text.lines text = Text.lines (finished content) ++ entries.map Entry.text)) ∧
    ∀ i c o, w.runs i = some (c, .done (.ok o)) →
      o.skippedReason = some Reason.alreadyOnRemote.message →
      ∃ e ∈ (runner i).due?, ∃ tip ∈ c.fetched, tip <:+ w.tip ∧ Ends e tip := by
  have hinv := invariant_reachable h
  obtain ⟨entries, hentries, hextends⟩ := hinv.extends_base
  constructor
  · refine ⟨entries, hentries, hextends.same, fun hne => ?_⟩
    obtain ⟨content, hcontent, htip⟩ := hextends.added hne
    have hfinished := Changelog.isFinished_finished content
    refine ⟨content, extended content entries, hcontent, htip, ?_, ?_⟩
    · rw [← Changelog.extended_finished content hne,
        Changelog.extended_of_isFinished hfinished]
    · rw [← Changelog.extended_finished content hne, Changelog.lines_extended hfinished]
  · intro i c o hrun hreason
    obtain ⟨e, he, tip, htip, hends⟩ := hinv.upholds i c _ hrun hreason
    exact ⟨e, he, tip, htip, hinv.fetched i c _ hrun tip htip, hends⟩

def contenders (first : Bool) : Runner changelog where
  config := { entry := { template := "- {{ text }}" }, push := { retries := 1 } }
  event := .ofDescription (if first then "One" else "Two") "main" none
  options := {}
  today := ⟨2024, 1, 1⟩
  path_eq := rfl

def overtaken : World Bool :=
  ([true, false, true, true, true, true, false, false, false, false, true, false] ++
    List.replicate 6 false).foldl (World.turn contenders) { tip := [⟨"", some "# Notes".toUTF8⟩] }

theorem reachable_document_overtaken :
    ∃ entries : List Entry, overtaken.accepted = [true, false] ∧
      overtaken.accepted.map (fun i => (contenders i).due?) = entries.map some ∧
      ∃ text, document overtaken.tip = some text.toUTF8 ∧
        Text.lines text = "# Notes" :: entries.map Entry.text := by
  have haccepted : overtaken.accepted = [true, false] := by decide +kernel
  have hreach : Relation.ReflTransGen (Step contenders) { tip := [⟨"", some "# Notes".toUTF8⟩] }
      overtaken := reachable_turns contenders _ _
  obtain ⟨⟨entries, hentries, -, hadded⟩, -⟩ := reachable_document hreach
  have hne : entries ≠ [] := by
    rintro rfl
    rw [haccepted] at hentries
    cases hentries
  obtain ⟨content, text, hcontent, htip, -, hlines⟩ := hadded hne
  obtain rfl : content = "# Notes" := Changelog.text?_toUTF8 hcontent
  have hfinished : Text.lines (finished "# Notes") = ["# Notes"] := by decide +kernel
  rw [hfinished] at hlines
  exact ⟨entries, haccepted, hentries, text, htip, hlines⟩

end MergeNotes.Git.Shared
