import MergeNotes.Proofs.Log

namespace MergeNotes.Changelog

theorem read_of_readFile {d : Disk} {p : Path} {content : String}
    (h : readFile d p = .ok content) (hne : content ≠ "") : d.read p = .ok content.toUTF8 := by
  unfold readFile at h
  split at h
  · cases h
    exact absurd rfl hne
  · exact readText_eq_ok.1 h

theorem endsWith_lastLine?_empty (e : Entry) : endsWith (lastLine? "") e = false := rfl

theorem exists_read_of_record {d d' : Disk} {p : Path} {e : Entry} {added : Bool}
    (h : record d p e = (.ok added, d')) : ∃ b, d'.read p = .ok b := by
  unfold record at h
  split at h
  · cases h
  rename_i last hlast
  obtain ⟨content, hcontent, rfl⟩ := readLastLine_eq_ok hlast
  split_ifs at h with hend
  · cases h
    refine ⟨_, read_of_readFile hcontent ?_⟩
    rintro rfl
    rw [endsWith_lastLine?_empty] at hend
    cases hend
  · split at h
    · cases h
    · rename_i happend
      cases h
      unfold append at happend
      split at happend
      · cases happend
      split at happend
      · cases happend
      split at happend
      · cases happend
      · cases happend
        exact ⟨_, (Disk.append_eq_ok (by assumption)).2⟩

end MergeNotes.Changelog

namespace MergeNotes.Git.InMemory

open Update (Job Options Author Outcome Reason Delivers)
open Changelog (recorded)

variable {g g' : InMemory} {p : Path} {config : Config} {event : Event} {options : Options}
  {e : Entry}

def OnRemote (g : InMemory) (p : Path) : Prop :=
  ∃ x ∈ g.remoteFiles, x.1.components = p.components

/-- The remote has the file, and its last line that is not blank is that one, trimmed. -/
def LastOnRemote (g : InMemory) (p : Path) (line : String) : Prop :=
  ∃ x ∈ g.remoteFiles, x.1.components = p.components ∧
    (Changelog.lastLine? x.2).map Text.trim = some line

theorem LastOnRemote.onRemote {line : String} (h : g.LastOnRemote p line) : g.OnRemote p := by
  obtain ⟨x, hx, hc, -⟩ := h
  exact ⟨x, hx, hc⟩

theorem map_trim_of_endsWith {last : Option String} (h : Changelog.endsWith last e = true) :
    last.map Text.trim = some e.text := by
  cases last with
  | none => cases h
  | some line => simpa [Changelog.endsWith] using h

/-- A checkout leaves what counts as committed of a file alone, or makes it a text that was checked
out for it. -/
theorem snapshot_checkOut {files : List (Path × String)} (h : g.checkOut files = (.ok (), g')) :
    (lookup p g'.snapshots = lookup p g.snapshots ∧ ∀ x ∈ files, x.1.components ≠ p.components) ∨
      ∃ x ∈ files, x.1.components = p.components ∧ lookup p g'.snapshots = some (some x.2) := by
  induction files generalizing g with
  | nil =>
    cases h
    exact .inl ⟨rfl, nofun⟩
  | cons x files ih =>
    obtain ⟨q, written⟩ := x
    unfold checkOut at h
    split at h
    · cases h
    rename_i d hd
    have hread : InMemory.read { g with disk := d } q = some written :=
      read_eq_some.2 (Disk.write_eq_ok hd).2
    rcases ih h with ⟨hkept, hnone⟩ | ⟨x, hx, hc, hlookup⟩
    · by_cases hq : q.components = p.components
      · refine .inr ⟨(q, written), List.mem_cons_self, hq, ?_⟩
        rw [hkept, markCommitted, hread, ← lookup_congr hq, lookup_insert]
      · refine .inl ⟨?_, ?_⟩
        · rw [hkept, markCommitted, lookup_insert_of_ne (Ne.symm hq)]
        · exact List.forall_mem_cons.2 ⟨hq, hnone⟩
    · exact .inr ⟨x, List.mem_cons_of_mem _ hx, hc, hlookup⟩

/-- An attempt with nothing to commit found the document as it was committed, ending with the
entry. -/
theorem snapshot_of_unchanged {job : Job} {message : Except Failure String} {author : Author}
    {appended : Bool} {b : ByteArray} (hp : job.path = p) (hread : g.disk.read p = .ok b)
    (h : (job.attempt message author).exec (handle p) g = (.ok ⟨appended, none⟩, g')) :
    ∃ content, lookup p g.snapshots = some (some (recorded content job.entry)) := by
  subst hp
  have hholds : g.disk.Holds job.path (some b) := hread
  cases attempted_of_exec h with
  | @unchanged _ d record same =>
    obtain ⟨content, -, hdocument, -⟩ := Changelog.record_eq_ok hholds record
    exact ⟨content, (isChanged_eq_false (g := { g with disk := d }) hdocument).1 same⟩

/-- So after a reset the remote ends with the entry, if it has the file. -/
theorem lastOnRemote_of_unchanged {job : Job} {message : Except Failure String} {author : Author}
    {appended : Bool} {b : ByteArray} {remote branch : String} {g₁ : InMemory}
    (hp : job.path = p) (hread : g.disk.read p = .ok b)
    (hreset : g.reset remote branch = (.ok (), g₁))
    (hattempt : (job.attempt message author).exec (handle p) g₁ = (.ok ⟨appended, none⟩, g'))
    (h : g.OnRemote p) : g.LastOnRemote p job.entry.text := by
  obtain ⟨b₁, hread₁⟩ : ∃ b₁, g₁.disk.read p = .ok b₁ := by
    have hfollows := follows_handle p (.reset remote branch none) g
    rw [handle, hreset] at hfollows
    exact hfollows.disk.exists_read hread
  obtain ⟨content, hsnapshot⟩ := snapshot_of_unchanged hp hread₁ hattempt
  obtain ⟨x, hx, hc⟩ := h
  rcases snapshot_checkOut hreset with ⟨-, hnone⟩ | ⟨y, hy, hcy, hlookup⟩
  · exact absurd hc (hnone x hx)
  · rw [hlookup] at hsnapshot
    obtain hy₂ : y.2 = recorded content job.entry := Option.some.inj (Option.some.inj hsnapshot)
    refine ⟨y, hy, hcy, ?_⟩
    rw [hy₂]
    exact map_trim_of_endsWith (Changelog.endsWith_recorded _ _)

theorem Follows.onRemote_iff (h : Follows p g g') : g'.OnRemote p ↔ g.OnRemote p := by
  rw [OnRemote, h.remoteFiles, OnRemote]

theorem Follows.lastOnRemote_iff {line : String} (h : Follows p g g') :
    g'.LastOnRemote p line ↔ g.LastOnRemote p line := by
  rw [LastOnRemote, h.remoteFiles, LastOnRemote]

theorem lastOnRemote_pushes {job : Job} {message : String} {author : Author} {n : Nat}
    {o o' : Outcome} {b : ByteArray} (hp : job.path = p)
    (h : Job.Pushes (handle p) job message author n o g (.ok o') g')
    (hread : g.disk.read p = .ok b) (ho : o.skippedReason = none) (ho' : o'.skippedReason.isSome)
    (honRemote : g.OnRemote p) : g.LastOnRemote p job.entry.text := by
  generalize hr : Except.ok o' = r at h
  -- it is the last reset that decides, and the remote is the same throughout
  induction h generalizing b with
  | accepted push =>
    cases hr
    simp [ho] at ho'
  | refused | unreset | failed => cases hr
  | @present n o s s₁ s₂ s' failure appended push reset attempt =>
    have hfollows := follows_handle p (.push job.remote job.branch job.token) s
    rw [push] at hfollows
    obtain ⟨b₁, hread₁⟩ := hfollows.disk.exists_read hread
    rw [← hfollows.lastOnRemote_iff]
    exact lastOnRemote_of_unchanged hp hread₁ reset attempt (hfollows.onRemote_iff.2 honRemote)
  | @again n o s s₁ s₂ s₃ s' failure appended m sha r push reset attempt rest ih =>
    have hfollows := (retry_eq_ok hp hread push reset attempt).1
    obtain ⟨b₃, hread₃⟩ := hfollows.disk.exists_read hread
    rw [← hfollows.lastOnRemote_iff]
    exact ih hread₃ ho (hfollows.onRemote_iff.2 honRemote) hr

theorem exists_read_of_attempt {job : Job} {message : Except Failure String} {author : Author}
    {attempt : Job.Attempt}
    (h : (job.attempt message author).exec (handle p) g = (.ok attempt, g')) :
    ∃ b, g'.disk.read p = .ok b := by
  cases attempted_of_exec h with
  | committed record => exact Changelog.exists_read_of_record record
  | unchanged record => exact Changelog.exists_read_of_record record

theorem lastOnRemote_deliver {o : Outcome}
    (h : Delivers (handle config.changelog.path) config event options e g (.ok o) g')
    (ho : o.skippedReason = some Reason.alreadyOnRemote.message) :
    o.entry = some e.text ∧
      (g.OnRemote config.changelog.path → g.LastOnRemote config.changelog.path e.text) := by
  generalize hr : Except.ok o = r at h
  cases h with
  | failed attempt => cases hr
  | unchanged attempt ahead =>
    rw [handle] at ahead
    cases ahead
    cases hr
    exact absurd (Option.some.inj ho) (Update.unchangedReason_message_ne _ _)
  | kept unpushed attempt =>
    cases hr
    cases ho
  | pushed push attempt pushes =>
    subst hr
    refine ⟨?_, fun honRemote => ?_⟩
    · obtain ⟨_, _, rfl⟩ | ⟨_, rfl⟩ := pushes.outcome
      · cases ho
      · rfl
    · have hfollows := Follows.of_exec attempt
      obtain ⟨b, hread⟩ := exists_read_of_attempt attempt
      have hp : (Job.ofConfig config event options e).path = config.changelog.path := rfl
      have hsome : o.skippedReason.isSome := by
        rw [ho]
        rfl
      rw [← hfollows.lastOnRemote_iff]
      exact lastOnRemote_pushes hp pushes hread rfl hsome (hfollows.onRemote_iff.2 honRemote)

/-- A run that stops because the entry is on the remote already says the truth exactly if the remote
has the file at all. -/
theorem run_lastOnRemote_iff {today : Date} {o : Outcome}
    (hrun : g.run config event options today = (.ok o, g'))
    (ho : o.skippedReason = some Reason.alreadyOnRemote.message) :
    ∃ line, o.entry = some line ∧
      (g.LastOnRemote config.changelog.path line ↔ g.OnRemote config.changelog.path) := by
  rw [InMemory.run] at hrun
  cases Update.runs_of_exec hrun with
  | skipped entry => exact absurd (Option.some.inj ho) (Update.entryOf_reason_ne entry)
  | @delivered _ e _ entry delivers =>
    obtain ⟨hline, htrue⟩ := lastOnRemote_deliver delivers ho
    exact ⟨e.text, hline, LastOnRemote.onRemote, htrue⟩

def rejecting (remoteFiles : List (Path × String)) : InMemory where
  disk := ⟨[], []⟩
  remoteFiles := remoteFiles
  failingPushes := 1

/-- Another run has pushed the same entry. -/
theorem run_lastOnRemote_iff_overtaken :
    ∃ (o : Outcome) (g' : InMemory),
      (rejecting [(⟨"CHANGELOG.md"⟩, "# Notes\n- Ours\n\n")]).run { push := { retries := 1 } }
        (.ofDescription "Ours" "main" none) {} ⟨2024, 1, 1⟩ = (.ok o, g') ∧
      o.skippedReason = some Reason.alreadyOnRemote.message ∧ o.entry = some "- Ours" ∧
      (rejecting [(⟨"CHANGELOG.md"⟩, "# Notes\n- Ours\n\n")]).LastOnRemote ⟨"CHANGELOG.md"⟩
        "- Ours" := by
  have hsaid : ((rejecting [(⟨"CHANGELOG.md"⟩, "# Notes\n- Ours\n\n")]).run
      { push := { retries := 1 } } (.ofDescription "Ours" "main" none) {}
        ⟨2024, 1, 1⟩).1.toOption.map (fun o => (o.skippedReason, o.entry)) =
      some (some Reason.alreadyOnRemote.message, some "- Ours") := by decide +kernel
  obtain ⟨r, g', hrun⟩ : ∃ r g', (rejecting [(⟨"CHANGELOG.md"⟩, "# Notes\n- Ours\n\n")]).run
      { push := { retries := 1 } } (.ofDescription "Ours" "main" none) {} ⟨2024, 1, 1⟩ =
        (r, g') := ⟨_, _, (Prod.eta _).symm⟩
  rw [hrun] at hsaid
  cases r with
  | error err => cases hsaid
  | ok o =>
    obtain ⟨hreason, hentry⟩ := Prod.mk.inj (Option.some.inj hsaid)
    obtain ⟨line, hline, htrue⟩ := run_lastOnRemote_iff hrun hreason
    rw [hentry] at hline
    cases hline
    exact ⟨o, g', hrun, hreason, hentry, htrue.2 ⟨_, List.mem_cons_self, rfl⟩⟩

/-- The remote has nothing, and the run stops because its entry is there. -/
theorem run_alreadyOnRemote_of_nothing :
    ∃ (o : Outcome) (g' : InMemory),
      (rejecting []).run { push := { retries := 1 } } (.ofDescription "Ours" "main" none) {}
        ⟨2024, 1, 1⟩ = (.ok o, g') ∧
      o.skippedReason = some "Entry already on remote branch" ∧
      ¬(rejecting []).OnRemote ⟨"CHANGELOG.md"⟩ ∧
      ∀ line, ¬(rejecting []).LastOnRemote ⟨"CHANGELOG.md"⟩ line := by
  have hsaid : ((rejecting []).run { push := { retries := 1 } }
      (.ofDescription "Ours" "main" none) {} ⟨2024, 1, 1⟩).1.toOption.map (·.skippedReason) =
      some (some "Entry already on remote branch") := by decide +kernel
  obtain ⟨r, g', hrun⟩ : ∃ r g', (rejecting []).run { push := { retries := 1 } }
      (.ofDescription "Ours" "main" none) {} ⟨2024, 1, 1⟩ = (r, g') := ⟨_, _, (Prod.eta _).symm⟩
  have hnothing : ¬(rejecting []).OnRemote ⟨"CHANGELOG.md"⟩ := by
    rintro ⟨x, hx, -⟩
    exact absurd hx List.not_mem_nil
  rw [hrun] at hsaid
  cases r with
  | error err => cases hsaid
  | ok o =>
    exact ⟨o, g', hrun, Option.some.inj hsaid, hnothing, fun _ h => hnothing h.onRemote⟩

end MergeNotes.Git.InMemory
