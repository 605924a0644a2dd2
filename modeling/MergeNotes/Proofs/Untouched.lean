import MergeNotes.Load
import MergeNotes.Proofs.Log

namespace MergeNotes.Changelog

variable {d d' : Disk} {p : Path} {e : Entry}

theorem fileAt?_append_of_error {err : Disk.Error} (h : append d p e = (.error err, d')) :
    d'.fileAt? (d.locate p) = d.fileAt? (d.locate p) := by
  have hparents := d.evolves_makeParents p
  unfold append at h
  split at h
  · cases h
    rfl
  split at h
  · rename_i hm
    cases h
    rw [hm] at hparents
    exact hparents.file _ (Set.notMem_empty _)
  · rename_i hm
    rw [hm] at hparents
    split at h
    · cases h
      exact hparents.file _ (Set.notMem_empty _)
    · cases h

/-- Adding an entry makes a file longer, or makes one. -/
theorem fileAt?_append_ne (h : append d p e = (.ok (), d')) :
    d'.fileAt? (d.locate p) ≠ d.fileAt? (d.locate p) := by
  have hparents := d.evolves_makeParents p
  unfold append at h
  split at h
  · cases h
  rename_i content _
  split at h
  · cases h
  rename_i d₁ hm
  rw [hm] at hparents
  split at h
  · cases h
  rename_i d₂ happend
  cases h
  obtain ⟨hev, hread⟩ := Disk.append_eq_ok happend
  have hfile := (Disk.read_eq_ok.1 hread).2
  rw [hev.locate, hparents.locate, hparents.file _ (Set.notMem_empty _)] at hfile
  rw [hfile]
  cases d.fileAt? (d.locate p) with
  | none => simp
  | some b =>
    intro heq
    have hsize := congrArg ByteArray.size (Option.some.inj heq)
    exact addition_ne_empty content e (by simpa using hsize)

/-- Recording an entry changes a file exactly if it was added. -/
theorem fileAt?_record_iff {r : Except Disk.Error Bool} (h : record d p e = (r, d')) :
    d'.fileAt? (d.locate p) = d.fileAt? (d.locate p) ↔ r ≠ .ok true := by
  unfold record at h
  split at h
  · cases h
    simp
  split_ifs at h
  · cases h
    simp
  · split at h
    · rename_i happend
      cases h
      simp [fileAt?_append_of_error happend]
    · rename_i happend
      cases h
      simp [fileAt?_append_ne happend]

/-- It is added exactly if the text that is there does not end with it. -/
theorem record_added_iff {added : Bool} (h : record d p e = (.ok added, d')) :
    added = true ↔ ∃ content, readFile d p = .ok content ∧ recorded content e ≠ content := by
  unfold record at h
  split at h
  · cases h
  rename_i last hlast
  obtain ⟨content, hcontent, rfl⟩ := readLastLine_eq_ok hlast
  simp only [hcontent, Except.ok.injEq, exists_eq_left', recorded_ne_iff]
  split_ifs at h with hend
  · cases h
    simp [hend]
  · split at h
    · cases h
    · cases h
      simpa using hend

end MergeNotes.Changelog

namespace MergeNotes.Git.InMemory

open Update (Job Options Author Outcome Plan entryOf)
open Changelog (recorded)

variable {g g' : InMemory} {p : Path} {config : Config} {event : Event} {options : Options}

theorem commits_exec {α : Type} (p : Path) (plan : Plan α) (g : InMemory) :
    g.commits <+: (plan.exec (handle p) g).2.commits := by
  refine Plan.exec_rel (R := fun g g' : InMemory => g.commits <+: g'.commits)
    (fun _ => List.prefix_rfl) (fun _ _ _ => List.IsPrefix.trans) ?_ plan g
  intro c g
  cases c with
  | commit message q author => exact List.prefix_append _ _
  | push remote branch token => exact ⟨_, (adds_push (Prod.eta _).symm).commits.symm⟩
  | reset remote branch token => exact ⟨_, (adds_reset (Prod.eta _).symm).commits.symm⟩
  | lastLine | append _ | isChanged _ | ahead _ _ => exact List.prefix_rfl

theorem commits_pushes {job : Job} {message : String} {author : Author} {n : Nat} {o : Outcome}
    {r : Except Failure Outcome} (h : Job.Pushes (handle p) job message author n o g r g') :
    g.commits <+: g'.commits := by
  have hexec := commits_exec p (job.push message author n o) g
  rwa [h.exec_eq] at hexec

theorem document_of_failed_attempt {job : Job} {message : Except Failure String} {author : Author}
    {failure : Failure} (hmessage : ∀ err, message ≠ .error (.disk err))
    (h : (job.attempt message author).exec (handle p) g = (.error failure, g')) :
    g'.disk.fileAt? (g.disk.locate p) = g.disk.fileAt? (g.disk.locate p) ↔
      ¬∃ content, Changelog.readFile g.disk p = .ok content ∧
        recorded content job.entry ≠ content ∧ message = .error failure := by
  cases attempted_of_exec h with
  | unrecorded record => simp [Changelog.fileAt?_record_iff record, hmessage]
  | noMessage record changed printed =>
    have hadded := Changelog.record_added_iff record
    simp [Changelog.fileAt?_record_iff record, hadded, printed]

theorem message_ne_disk {source : String} {err : Disk.Error} :
    Render.message source event ≠ .error (.disk err) := by
  rw [Render.message]
  cases Render.message? source event <;> simp [Except.mapError]

/-- A run that fails with no commit made leaves the document as it was, byte for byte or missing,
exactly unless it added the entry and then had no message for its commit. -/
theorem document_of_failed_run {today : Date} {failure : Failure}
    (hrun : g.run config event options today = (.error failure, g'))
    (hcommits : g'.commits = g.commits) :
    g'.disk.fileAt? (g.disk.locate config.changelog.path) =
        g.disk.fileAt? (g.disk.locate config.changelog.path) ↔
      ¬∃ e content, entryOf config event options today = .ok (.ok e) ∧
        Changelog.readFile g.disk config.changelog.path = .ok content ∧
        recorded content e ≠ content ∧
        Render.message config.commit.message event = .error failure := by
  rw [InMemory.run] at hrun
  cases Update.runs_of_exec hrun with
  | failed entry => simp [entry]
  | @delivered _ e _ entry delivers =>
    generalize hr : Except.error failure = r at delivers
    cases delivers with
    | failed attempt =>
      cases hr
      have hattempt := document_of_failed_attempt (fun _ => message_ne_disk) attempt
      refine hattempt.trans (not_congr ⟨?_, ?_⟩)
      · rintro ⟨content, hcontent⟩
        exact ⟨e, content, entry, hcontent⟩
      · rintro ⟨e', content, he, hcontent⟩
        rw [entry] at he
        cases he
        exact ⟨content, hcontent⟩
    | unchanged attempt ahead =>
      rw [handle] at ahead
      cases ahead
      cases hr
    | kept unpushed attempt => cases hr
    | pushed push attempt pushes =>
      -- the first attempt made a commit
      have hrest := commits_pushes pushes
      rw [(adds_attempt attempt).commits, hcommits] at hrest
      have hlength : g.commits.length + 1 ≤ g.commits.length := by
        simpa [commitsOf] using hrest.length_le
      exact absurd hlength (Nat.not_succ_le_self _)

/-- A configuration that is accepted and whose message asks for a variable that there is not. -/
def misspelled : Config where
  commit := { message := "Update changelog for #{{ numbr }}" }

def holding (document committed : String) : InMemory where
  disk := ⟨[(["CHANGELOG.md".toList], .file document.toUTF8)], []⟩
  snapshots := [(⟨"CHANGELOG.md"⟩, some committed)]

/-- Where the message cannot be made, the entry stays in the document but nothing commits it. -/
theorem failed_run_adds_entry :
    Config.parse "[commit]\nmessage = \"Update changelog for #{{ numbr }}\"\n" =
        .ok misspelled ∧
      ∃ (failure : Failure) (g' : InMemory),
        (holding "# Changelog\n" "# Changelog\n").run misspelled
          (.ofDescription "Add export" "main" none) { push := false } ⟨2024, 5, 1⟩ =
            (.error failure, g') ∧
        g'.commits = [] ∧
        (holding "# Changelog\n" "# Changelog\n").disk.read ⟨"CHANGELOG.md"⟩ =
          .ok "# Changelog\n".toUTF8 ∧
        g'.disk.read ⟨"CHANGELOG.md"⟩ = .ok "# Changelog\n- Add export\n".toUTF8 := by
  have hcommits : ((holding "# Changelog\n" "# Changelog\n").run misspelled
      (.ofDescription "Add export" "main" none) { push := false } ⟨2024, 5, 1⟩).2.commits.length =
        0 := by decide +kernel
  have hread : ((holding "# Changelog\n" "# Changelog\n").run misspelled
      (.ofDescription "Add export" "main" none) { push := false } ⟨2024, 5, 1⟩).2.disk.read
        ⟨"CHANGELOG.md"⟩ = .ok "# Changelog\n- Add export\n".toUTF8 := by decide +kernel
  have herror : ((holding "# Changelog\n" "# Changelog\n").run misspelled
      (.ofDescription "Add export" "main" none) { push := false } ⟨2024, 5, 1⟩).1.toOption =
        none := by decide +kernel
  obtain ⟨r, g', hrun⟩ : ∃ r g', (holding "# Changelog\n" "# Changelog\n").run misspelled
      (.ofDescription "Add export" "main" none) { push := false } ⟨2024, 5, 1⟩ = (r, g') :=
    ⟨_, _, (Prod.eta _).symm⟩
  rw [hrun] at hcommits hread herror
  cases r with
  | ok o => cases herror
  | error failure =>
    exact ⟨by decide +kernel, failure, g', hrun, List.length_eq_zero_iff.1 hcommits,
      by decide +kernel, hread⟩

/-- Where an earlier run left its entry, the next one fails too and leaves the document alone. -/
theorem document_of_failed_run_repeated :
    ∃ (failure : Failure) (g' : InMemory),
      (holding "# Changelog\n- Add export\n" "# Changelog\n").run misspelled
        (.ofDescription "Add export" "main" none) { push := false } ⟨2024, 5, 1⟩ =
          (.error failure, g') ∧
      g'.commits = (holding "# Changelog\n- Add export\n" "# Changelog\n").commits ∧
      g'.disk.fileAt? ["CHANGELOG.md".toList] = some "# Changelog\n- Add export\n".toUTF8 := by
  have hcommits : ((holding "# Changelog\n- Add export\n" "# Changelog\n").run misspelled
      (.ofDescription "Add export" "main" none) { push := false } ⟨2024, 5, 1⟩).2.commits.length =
        0 := by decide +kernel
  have herror : ((holding "# Changelog\n- Add export\n" "# Changelog\n").run misspelled
      (.ofDescription "Add export" "main" none) { push := false } ⟨2024, 5, 1⟩).1.toOption =
        none := by decide +kernel
  have hentry : (entryOf misspelled (.ofDescription "Add export" "main" none) { push := false }
      ⟨2024, 5, 1⟩).toOption.bind (·.toOption.map (·.text)) = some "- Add export" := by
    decide +kernel
  have hread : (holding "# Changelog\n- Add export\n" "# Changelog\n").disk.read
      ⟨"CHANGELOG.md"⟩ = .ok "# Changelog\n- Add export\n".toUTF8 := by decide +kernel
  obtain ⟨r, g', hrun⟩ : ∃ r g', (holding "# Changelog\n- Add export\n" "# Changelog\n").run
      misspelled (.ofDescription "Add export" "main" none) { push := false } ⟨2024, 5, 1⟩ =
        (r, g') := ⟨_, _, (Prod.eta _).symm⟩
  rw [hrun] at hcommits herror
  cases r with
  | ok o => cases herror
  | error failure =>
    have hkept : g'.commits = (holding "# Changelog\n- Add export\n" "# Changelog\n").commits :=
      List.length_eq_zero_iff.1 hcommits
    have hdocument := (document_of_failed_run hrun hkept).2 (by
      rintro ⟨e, content, he, hcontent, hne, -⟩
      rw [he] at hentry
      have htext : e.text = "- Add export" := Option.some.inj hentry
      have hholds : (holding "# Changelog\n- Add export\n" "# Changelog\n").disk.Holds
          ⟨"CHANGELOG.md"⟩ (some "# Changelog\n- Add export\n".toUTF8) := hread
      obtain rfl := Changelog.text?_toUTF8 (Changelog.readFile_eq_ok hholds hcontent)
      refine hne (Changelog.recorded_of_endsWith ?_)
      rw [Changelog.endsWith, htext]
      decide +kernel)
    refine ⟨failure, g', hrun, hkept, ?_⟩
    exact hdocument.trans (Disk.read_eq_ok.1 hread).2

end MergeNotes.Git.InMemory
