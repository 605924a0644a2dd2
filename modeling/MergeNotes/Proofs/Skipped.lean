import MergeNotes.Proofs.Canonical
import MergeNotes.Proofs.Log

namespace MergeNotes

theorem mapError_eq_ok {ε ε' α : Type} {x : Except ε α} {f : ε → ε'} {a : α} :
    x.mapError f = .ok a ↔ x = .ok a := by
  cases x <;> simp [Except.mapError]

theorem Render.entryTemplate_eq_ok {source : String} {t : Template} :
    Render.entryTemplate source = .ok t ↔ Template.parse source = .ok t :=
  mapError_eq_ok

theorem Render.entry_eq_ok {t : Template} {text : String} {event : Event} {date : Date}
    {found : Option Entry} : Render.entry t text event date = .ok found ↔
      ∃ printed, t.render (Render.entryBindings text event date) = .ok printed ∧
        Entry.ofText? printed = found := by
  rw [Render.entry]
  cases t.render (Render.entryBindings text event date) <;> simp

namespace Update

variable {σ : Type} {handle : (c : Call) → σ → Except Failure c.Reply × σ} {s s' : σ}
  {config : Config} {event : Event} {options : Options} {today : Date} {entry : Entry}
  {o : Outcome} {reason : Reason}

/-- What there is about a run for which it may be skipped. -/
inductive Cause (config : Config) (event : Event) (options : Options) (today : Date) : Reason → Prop
  | notMerged (merged : event.isMergedClose = false) : Cause config event options today .notMerged
  | noEntry (extract : config.extract options.rule event.descriptionText = none) :
      Cause config event options today .noEntry
  | blankEntry {text printed : String} {t : Template}
      (extract : config.extract options.rule event.descriptionText = some text)
      (parse : Template.parse config.entry.template = .ok t)
      (render : t.render (Render.entryBindings text event today) = .ok printed)
      (blank : Text.isBlank printed = true) : Cause config event options today .blankEntry

theorem entryOf_notMerged (h : Cause config event options today .notMerged) :
    entryOf config event options today = .ok (.error .notMerged) := by
  cases h with
  | notMerged merged =>
    rw [entryOf, merged]
    rfl

theorem isMergedClose_of_not_cause (h : ¬Cause config event options today .notMerged) :
    event.isMergedClose = true := by
  by_contra hclose
  exact h (.notMerged (by simpa using hclose))

theorem entryOf_noEntry (hmerged : ¬Cause config event options today .notMerged)
    (h : Cause config event options today .noEntry) :
    entryOf config event options today = .ok (.error .noEntry) := by
  cases h with
  | noEntry extract =>
    rw [entryOf, isMergedClose_of_not_cause hmerged, extract]
    rfl

theorem entryOf_blankEntry (hmerged : ¬Cause config event options today .notMerged)
    (h : Cause config event options today .blankEntry) :
    entryOf config event options today = .ok (.error .blankEntry) := by
  cases h with
  | blankEntry extract parse render blank =>
    have hfound := Render.entry_eq_ok.2 ⟨_, render, Entry.ofText?_eq_none_iff.2 blank⟩
    rw [entryOf, isMergedClose_of_not_cause hmerged, extract]
    exact bind_eq_ok.2 ⟨_, Render.entryTemplate_eq_ok.2 parse,
      bind_eq_ok.2 ⟨_, hfound, rfl⟩⟩

theorem cause_of_entryOf (h : entryOf config event options today = .ok (.error reason)) :
    Cause config event options today reason := by
  unfold entryOf at h
  split at h
  · rename_i hmerged
    cases h
    exact .notMerged (by simpa using hmerged)
  split at h
  · rename_i hextract
    cases h
    exact .noEntry hextract
  rename_i text hextract
  obtain ⟨t, ht, h⟩ := bind_eq_ok.1 h
  obtain ⟨found, hfound, h⟩ := bind_eq_ok.1 h
  cases found with
  | some e => cases h
  | none =>
    cases h
    obtain ⟨printed, hprinted, hblank⟩ := Render.entry_eq_ok.1 hfound
    exact .blankEntry hextract (Render.entryTemplate_eq_ok.1 ht) hprinted
      (Entry.ofText?_eq_none_iff.1 hblank)

/-- The first cause that applies is why there is no entry. -/
theorem exists_entryOf (h : Cause config event options today reason) :
    ∃ reason, entryOf config event options today = .ok (.error reason) := by
  by_cases hmerged : Cause config event options today .notMerged
  · exact ⟨_, entryOf_notMerged hmerged⟩
  by_cases hextract : Cause config event options today .noEntry
  · exact ⟨_, entryOf_noEntry hmerged hextract⟩
  cases h with
  | notMerged merged => exact absurd (.notMerged merged) hmerged
  | noEntry extract => exact absurd (.noEntry extract) hextract
  | blankEntry extract parse render blank =>
    exact ⟨_, entryOf_blankEntry hmerged (.blankEntry extract parse render blank)⟩

theorem entry_of_delivers (h : Delivers handle config event options entry s (.ok o) s') :
    o.entry = some entry.text := by
  generalize hr : Except.ok o = r at h
  cases h with
  | failed attempt => cases hr
  | @unchanged _ _ appended reply attempt ahead =>
    cases reply with
    | error failure => cases hr
    | ok count =>
      cases hr
      rfl
  | kept unpushed attempt =>
    cases hr
    rfl
  | pushed push attempt pushes =>
    subst hr
    obtain ⟨_, _, rfl⟩ | ⟨_, rfl⟩ := pushes.outcome <;> rfl

end Update

namespace Git.InMemory

open Update (Cause Options entryOf plan)

theorem run_of_entryOf {g : InMemory} {config : Config} {event : Event} {options : Options}
    {today : Date} {reason : Update.Reason}
    (h : entryOf config event options today = .ok (.error reason)) :
    g.run config event options today = (.ok (.skipped reason), g) := by
  rw [InMemory.run, plan, h]
  rfl

/-- A run ends well without an entry exactly if it has a cause to be skipped. It reports the first
that applies, and leaves files, logs and all else as they are. -/
theorem run_skips (g : InMemory) (config : Config) (event : Event) (options : Options)
    (today : Date) :
    ((∃ o, (g.run config event options today).1 = .ok o ∧ o.entry = none) ↔
      ∃ reason, Cause config event options today reason) ∧
    (Cause config event options today .notMerged →
      g.run config event options today = (.ok (.skipped .notMerged), g)) ∧
    (¬Cause config event options today .notMerged → Cause config event options today .noEntry →
      g.run config event options today = (.ok (.skipped .noEntry), g)) ∧
    (¬Cause config event options today .notMerged → ¬Cause config event options today .noEntry →
      Cause config event options today .blankEntry →
      g.run config event options today = (.ok (.skipped .blankEntry), g)) := by
  refine ⟨⟨?_, ?_⟩, fun h => run_of_entryOf (Update.entryOf_notMerged h),
    fun hmerged h => run_of_entryOf (Update.entryOf_noEntry hmerged h),
    fun hmerged _ h => run_of_entryOf (Update.entryOf_blankEntry hmerged h)⟩
  · rintro ⟨o, ho, hnone⟩
    obtain ⟨g', hrun⟩ : ∃ g', g.run config event options today = (.ok o, g') :=
      ⟨_, Prod.ext ho rfl⟩
    cases Update.runs_of_exec hrun with
    | skipped entry => exact ⟨_, Update.cause_of_entryOf entry⟩
    | delivered entry delivers =>
      have hsome := Update.entry_of_delivers delivers
      rw [hnone] at hsome
      cases hsome
  · rintro ⟨reason, hcause⟩
    obtain ⟨first, hfirst⟩ := Update.exists_entryOf hcause
    exact ⟨.skipped first, congrArg Prod.fst (run_of_entryOf hfirst), rfl⟩

end Git.InMemory
end MergeNotes
