import MergeNotes.Proofs.InMemory

namespace MergeNotes.Git.InMemory

open Update (Job Options Plan Author Outcome Delivers entryOf)
open Changelog (recorded)

variable {g g' : InMemory} {p : Path} {e : Entry} {base remote : String}

/-- Whether a run ended well, or with a push that was rejected. -/
def isSettled : Except Failure Outcome → Bool
  | .ok _ => true
  | .error (.git _ _) => true
  | .error _ => false

/-- What the document held that a run recorded its entry in: what it held at first, or what the
remote has if the run reset. -/
structure Source (p : Path) (g g' : InMemory) (base content : String) : Prop where
  kept : g'.resets = g.resets → content = base
  replaced : g'.resets ≠ g.resets → ∀ text, g.Offers p text → content = text

theorem Source.of_eq (h : g'.resets = g.resets) : Source p g g' base base :=
  ⟨fun _ => rfl, fun hne => absurd h hne⟩

structure Documented (p : Path) (e : Entry) (content : String) (r : Except Failure Outcome)
    (g' : InMemory) : Prop where
  stands : g'.Stands p (recorded content e)
  outcome : ∀ o, r = .ok o →
    o.entry = some e.text ∧ (o.appended = true ↔ recorded content e ≠ content)

theorem not_isSettled_of_reset {s s' : InMemory} {remote branch : String} {failure : Failure}
    (h : s.reset remote branch = (.error failure, s')) : ¬isSettled (.error failure) := by
  intro hsettled
  cases failure with
  | git command details => exact reset_error (congrArg Prod.fst h)
  | _ => cases hsettled

theorem not_isSettled_of_attempt {s s' : InMemory} {job : Job} {message : Except Failure String}
    {author : Author} {failure : Failure}
    (hmessage : ∀ err command details, message = .error err → err ≠ .git command details)
    (h : (job.attempt message author).exec (handle p) s = (.error failure, s')) :
    ¬isSettled (.error failure) := by
  intro hsettled
  cases failure with
  | git command details =>
    cases attempted_of_exec h with
    | noMessage record changed printed => exact hmessage _ _ _ printed rfl
  | _ => cases hsettled

theorem documented_pushes {job : Job} {message : String} {author : Author} {n : Nat} {o : Outcome}
    {r : Except Failure Outcome} (hp : job.path = p)
    (h : Job.Pushes (handle p) job message author n o g r g') (hr : isSettled r)
    (hg : g.Stands p (recorded base job.entry))
    (hentry : o.entry = some job.entry.text)
    (happended : o.appended = true ↔ recorded base job.entry ≠ base) :
    ∃ content, Source p g g' base content ∧ Documented p job.entry content r g' := by
  -- by how the pushes go: a reset puts the remote's document in the place of the recorded one, and
  -- the next attempt records the entry in that
  induction h generalizing base with
  | @accepted n o s s' push =>
    obtain ⟨hdisk, hsnapshots, hresets⟩ := push_keeps push
    refine ⟨base, .of_eq hresets, hg.congr hdisk hsnapshots, ?_⟩
    rintro o' ⟨⟩
    exact ⟨hentry, happended⟩
  | @refused o s s' failure push =>
    obtain ⟨hdisk, hsnapshots, hresets⟩ := push_keeps push
    refine ⟨base, .of_eq hresets, hg.congr hdisk hsnapshots, ?_⟩
    rintro o' ⟨⟩
  | @unreset n o s s₁ s' failure failure' push reset =>
    exact absurd hr (not_isSettled_of_reset reset)
  | @failed n o s s₁ s₂ s' failure failure' push reset attempt =>
    refine absurd hr (not_isSettled_of_attempt ?_ attempt)
    rintro err command details ⟨⟩
  | @present n o s s₁ s₂ s' failure appended push reset attempt =>
    obtain ⟨-, hne, content, hstands, hadded, hcontent⟩ :=
      retry_eq_ok hp hg.read push reset attempt
    refine ⟨content, ⟨fun heq => absurd heq hne, fun _ => hcontent⟩, hstands, ?_⟩
    rintro o' ⟨⟩
    exact ⟨hentry, hadded⟩
  | @again n o s s₁ s₂ s₃ s' failure appended m sha r push reset attempt rest ih =>
    obtain ⟨hfollows, hne, content, hstands, hadded, hcontent⟩ :=
      retry_eq_ok hp hg.read push reset attempt
    have hne' := hfollows.resets_ne (.of_exec rest.exec_eq) hne
    obtain ⟨content', hsource, hdocumented⟩ := ih hr hstands hentry hadded
    refine ⟨content', ⟨fun heq => absurd heq hne', fun _ text htext => ?_⟩, hdocumented⟩
    -- without another reset the document stays the one that this retry found
    by_cases heq : s'.resets = s₃.resets
    · rw [hsource.kept heq, hcontent text htext]
    · exact hsource.replaced heq text (htext.of_follows hfollows)

theorem resets_attempt {job : Job} {message : Except Failure String} {author : Author}
    {r : Except Failure Job.Attempt}
    (h : (job.attempt message author).exec (handle p) g = (r, g')) : g'.resets = g.resets := by
  cases attempted_of_exec h <;> rfl

theorem documented_deliver {config : Config} {event : Event} {options : Options}
    {file : Option ByteArray} {r : Except Failure Outcome}
    (hfile : g.disk.Holds config.changelog.path file)
    (h : Delivers (handle config.changelog.path) config event options e g r g')
    (hr : isSettled r) :
    ∃ base content, Changelog.text? file = some base ∧
      Source config.changelog.path g g' base content ∧
      Documented config.changelog.path e content r g' := by
  have hp : (Job.ofConfig config event options e).path = config.changelog.path := rfl
  cases h with
  | failed attempt =>
    exact absurd hr
      (not_isSettled_of_attempt (fun _ _ _ hm => Update.message_ne_git hm) attempt)
  | unchanged attempt ahead =>
    have hresets := resets_attempt attempt
    obtain ⟨base, htext, hstands, happended⟩ := attempt_eq_ok hp hfile attempt
    rw [handle] at ahead
    cases ahead
    refine ⟨base, base, htext, .of_eq hresets, hstands, ?_⟩
    rintro o ⟨⟩
    exact ⟨rfl, happended⟩
  | kept unpushed attempt =>
    have hresets := resets_attempt attempt
    obtain ⟨base, htext, hstands, happended⟩ := attempt_eq_ok hp hfile attempt
    refine ⟨base, base, htext, .of_eq hresets, hstands, ?_⟩
    rintro o ⟨⟩
    exact ⟨rfl, happended⟩
  | pushed push attempt pushes =>
    have hfirst := Follows.of_exec attempt
    have hresets := resets_attempt attempt
    obtain ⟨base, htext, hstands, happended⟩ := attempt_eq_ok hp hfile attempt
    obtain ⟨content, hsource, hdocumented⟩ :=
      documented_pushes hp pushes hr hstands rfl happended
    -- up to the first push there is no reset
    refine ⟨base, content, htext, ⟨?_, ?_⟩, hdocumented⟩
    · rw [← hresets]
      exact hsource.kept
    · rw [← hresets]
      exact fun hne text hoffers => hsource.replaced hne text (hoffers.of_follows hfirst)

/-- A repository whose next push is rejected, with a line on the remote that it lacks. -/
def contested : InMemory where
  disk := ⟨[(["CHANGELOG.md".toList], .file "# Notes\n".toUTF8)], []⟩
  remoteFiles := [(⟨"CHANGELOG.md"⟩, "# Notes\n- Theirs")]
  failingPushes := 1

end MergeNotes.Git.InMemory
