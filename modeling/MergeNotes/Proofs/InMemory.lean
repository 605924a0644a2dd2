import MergeNotes.Git.InMemory
import MergeNotes.Proofs.Document
import MergeNotes.Proofs.Plan

namespace MergeNotes.Git.InMemory

open Update (Job Plan Author Call Outcome)
open Changelog (recorded)

variable {α : Type} {g g' : InMemory} {p q : Path} {e : Entry}

theorem lookup_congr (h : p.components = q.components) (table : List (Path × α)) :
    lookup p table = lookup q table := by
  rw [lookup, h, lookup]

theorem lookup_cons (p q : Path) (a : α) (table : List (Path × α)) :
    lookup p ((q, a) :: table) =
      if q.components = p.components then some a else lookup p table := by
  unfold lookup
  split_ifs with h <;> simp [h]

theorem lookup_concat (p q : Path) (a : α) (table : List (Path × α)) :
    lookup p (table ++ [(q, a)]) =
      (lookup p table).or (if q.components = p.components then some a else none) := by
  induction table with
  | nil => exact lookup_cons p q a []
  | cons x table ih =>
    rw [List.cons_append, lookup_cons, lookup_cons, ih]
    split_ifs <;> rfl

theorem lookup_map (p q : Path) (a : α) (table : List (Path × α)) :
    lookup q (table.map fun (r, b) => (r, if r.components = p.components then a else b)) =
      (lookup q table).map fun b => if q.components = p.components then a else b := by
  induction table with
  | nil => rfl
  | cons x table ih =>
    obtain ⟨r, b⟩ := x
    rw [List.map_cons, lookup_cons, lookup_cons, ih]
    split_ifs with hr hq hq hp <;> simp_all

theorem lookup_insert (p : Path) (a : α) (table : List (Path × α)) :
    lookup p (insert p a table) = some a := by
  unfold insert
  split
  · rename_i h
    obtain ⟨b, hb⟩ := Option.isSome_iff_exists.1 h
    rw [lookup_map, hb, Option.map_some, if_pos rfl]
  · rename_i h
    rw [lookup_concat, Option.not_isSome_iff_eq_none.1 h, if_pos rfl, Option.none_or]

theorem lookup_insert_of_ne (h : q.components ≠ p.components) (a : α)
    (table : List (Path × α)) : lookup q (insert p a table) = lookup q table := by
  unfold insert
  split
  · simp [lookup_map, h]
  · rw [lookup_concat, if_neg h.symm, Option.or_none]

theorem commit_disk (g : InMemory) (message : String) (p : Path) (author : Author) :
    (g.commit message p author).2.disk = g.disk := rfl

theorem commit_snapshots (g : InMemory) (message : String) (p : Path) (author : Author) :
    (g.commit message p author).2.snapshots = insert p (g.read p) g.snapshots := rfl

theorem exec_record (p : Path) (job : Job) (next : Bool → Plan α) (g : InMemory) :
    (job.record next).exec (handle p) g =
      match Changelog.record g.disk p job.entry with
      | (.error err, d) => (.error (.disk err), { g with disk := d })
      | (.ok added, d) => (next added).exec (handle p) { g with disk := d } := by
  rw [Job.record, Plan.exec_ask, handle, Changelog.record]
  cases Changelog.readLastLine g.disk p with
  | error err => rfl
  | ok last =>
    simp only [Except.mapError]
    split_ifs
    · rfl
    · rw [Plan.exec_ask, handle]
      rcases Changelog.append g.disk p job.entry with ⟨_ | _, d⟩ <;> rfl

theorem exec_attempt (p : Path) (job : Job) (message : Except Failure String) (author : Author)
    (g : InMemory) :
    (job.attempt message author).exec (handle p) g =
      match Changelog.record g.disk p job.entry with
      | (.error err, d) => (.error (.disk err), { g with disk := d })
      | (.ok added, d) =>
        if InMemory.isChanged { g with disk := d } job.path then
          match message with
          | .error err => (.error err, { g with disk := d })
          | .ok m =>
            (.ok ⟨added, some (m, (InMemory.commit { g with disk := d } m job.path author).1)⟩,
              (InMemory.commit { g with disk := d } m job.path author).2)
        else (.ok ⟨added, none⟩, { g with disk := d }) := by
  rw [Job.attempt, exec_record]
  rcases Changelog.record g.disk p job.entry with ⟨_ | added, d⟩
  · rfl
  · dsimp only
    rw [Plan.exec_ask, handle]
    dsimp only
    split_ifs
    · cases message <;> rfl
    · rfl

/-- How an attempt goes in memory: the entry is not recorded, or it is and has to be committed, with
or without a message for that, or the document is as it was committed. -/
inductive Attempted (p : Path) (job : Job) (message : Except Failure String) (author : Author)
    (g : InMemory) : Except Failure Job.Attempt → InMemory → Prop
  | unrecorded {err : Disk.Error} {d : Disk}
      (record : Changelog.record g.disk p job.entry = (.error err, d)) :
      Attempted p job message author g (.error (.disk err)) { g with disk := d }
  | noMessage {added : Bool} {d : Disk} {failure : Failure}
      (record : Changelog.record g.disk p job.entry = (.ok added, d))
      (changed : InMemory.isChanged { g with disk := d } job.path = true)
      (printed : message = .error failure) :
      Attempted p job message author g (.error failure) { g with disk := d }
  | committed {added : Bool} {d : Disk} {m : String}
      (record : Changelog.record g.disk p job.entry = (.ok added, d))
      (changed : InMemory.isChanged { g with disk := d } job.path = true)
      (printed : message = .ok m) :
      Attempted p job message author g
        (.ok ⟨added, some (m, (InMemory.commit { g with disk := d } m job.path author).1)⟩)
        (InMemory.commit { g with disk := d } m job.path author).2
  | unchanged {added : Bool} {d : Disk}
      (record : Changelog.record g.disk p job.entry = (.ok added, d))
      (same : InMemory.isChanged { g with disk := d } job.path = false) :
      Attempted p job message author g (.ok ⟨added, none⟩) { g with disk := d }

theorem attempted_of_exec {job : Job} {message : Except Failure String} {author : Author}
    {r : Except Failure Job.Attempt}
    (h : (job.attempt message author).exec (handle p) g = (r, g')) :
    Attempted p job message author g r g' := by
  rw [exec_attempt] at h
  rcases hrecord : Changelog.record g.disk p job.entry with ⟨_ | added, d⟩
  · rw [hrecord] at h
    cases h
    exact .unrecorded hrecord
  · rw [hrecord] at h
    dsimp only at h
    split_ifs at h with hchanged
    · cases message with
      | error failure =>
        cases h
        exact .noMessage hrecord hchanged rfl
      | ok m =>
        cases h
        exact .committed hrecord hchanged rfl
    · cases h
      exact .unchanged hrecord (Bool.eq_false_iff.2 hchanged)

structure Stands (g : InMemory) (p : Path) (content : String) : Prop where
  read : g.disk.read p = .ok content.toUTF8
  snapshot : lookup p g.snapshots = some (some content)

theorem read_eq_some {content : String} :
    g.read p = some content ↔ g.disk.read p = .ok content.toUTF8 := by
  rw [← Changelog.readText_eq_ok, InMemory.read]
  cases g.disk.readText p <;> simp [Except.toOption]

theorem isChanged_eq_false {content : String} (h : g.disk.read p = .ok content.toUTF8) :
    g.isChanged p = false ↔ lookup p g.snapshots = some (some content) := by
  simp only [isChanged, read_eq_some.2 h, decide_eq_false_iff_not, not_not]
  rw [eq_comm, Option.join_eq_some_iff]

theorem stands_commit {content : String} (h : g.disk.read p = .ok content.toUTF8)
    (message : String) (author : Author) : (g.commit message p author).2.Stands p content where
  read := h
  snapshot := by rw [commit_snapshots, read_eq_some.2 h, lookup_insert]

theorem Stands.isChanged {content : String} (h : g.Stands p content) : g.isChanged p = false :=
  (isChanged_eq_false h.read).2 h.snapshot

/-- An attempt that succeeds leaves the recorded document in the last commit, whether it had to
commit or not. -/
theorem attempt_eq_ok {job : Job} {message : Except Failure String} {author : Author}
    {attempt : Job.Attempt} {file : Option ByteArray} (hp : job.path = p)
    (hfile : g.disk.Holds p file)
    (h : (job.attempt message author).exec (handle p) g = (.ok attempt, g')) :
    ∃ content, Changelog.text? file = some content ∧ g'.Stands p (recorded content job.entry) ∧
      (attempt.appended = true ↔ recorded content job.entry ≠ content) := by
  subst hp
  cases attempted_of_exec h with
  | @committed added d m record changed printed =>
    obtain ⟨content, htext, hread, hadded⟩ := Changelog.record_eq_ok hfile record
    exact ⟨content, htext, stands_commit (g := { g with disk := d }) hread m author, hadded⟩
  | @unchanged added d record same =>
    obtain ⟨content, htext, hread, hadded⟩ := Changelog.record_eq_ok hfile record
    have hsnapshot := (isChanged_eq_false (g := { g with disk := d }) hread).1 same
    exact ⟨content, htext, ⟨hread, hsnapshot⟩, hadded⟩

/-- Where a run may have written: the document, and after a reset the files of the remote. -/
def touched (p : Path) (g g' : InMemory) : Set Location :=
  {l | l = g.disk.locate p ∨ g'.resets ≠ g.resets ∧ ∃ x ∈ g.remoteFiles, g.disk.locate x.1 = l}

/-- What every call keeps: the remote stays as it is, resets are logged, and files that a run may
not write are left alone. -/
structure Follows (p : Path) (g g' : InMemory) : Prop where
  remoteFiles : g'.remoteFiles = g.remoteFiles
  resets : g.resets <+: g'.resets
  disk : Disk.Evolves (touched p g g') g.disk g'.disk

theorem Follows.refl (p : Path) (g : InMemory) : Follows p g g :=
  ⟨rfl, List.prefix_rfl, .refl _ _⟩

theorem Follows.of_eq (hdisk : g'.disk = g.disk) (hremoteFiles : g'.remoteFiles = g.remoteFiles)
    (hresets : g'.resets = g.resets) : Follows p g g' :=
  ⟨hremoteFiles, hresets ▸ List.prefix_rfl, hdisk ▸ .refl _ _⟩

theorem Follows.resets_ne {g'' : InMemory} (h : Follows p g g') (h' : Follows p g' g'')
    (hne : g'.resets ≠ g.resets) : g''.resets ≠ g.resets := by
  intro heq
  have hle := h'.resets.length_le
  rw [heq] at hle
  exact hne (h.resets.eq_of_length_le hle).symm

theorem Follows.trans {g'' : InMemory} (h : Follows p g g') (h' : Follows p g' g'') :
    Follows p g g'' where
  remoteFiles := h'.remoteFiles.trans h.remoteFiles
  resets := h.resets.trans h'.resets
  disk := by
    have hne : g''.resets ≠ g'.resets → g''.resets ≠ g.resets := fun hne heq =>
      hne (h'.resets.eq_of_length_le (heq ▸ h.resets.length_le)).symm
    -- what either part may write, the whole may
    refine (h.disk.mono ?_).trans (h'.disk.mono ?_)
    · rintro l (hl | ⟨hr, hl⟩)
      · exact .inl hl
      · exact .inr ⟨h.resets_ne h' hr, hl⟩
    · rintro l (hl | ⟨hr, x, hx, hl⟩)
      · exact .inl (hl.trans (h.disk.locate p))
      · exact .inr ⟨hne hr, x, h.remoteFiles ▸ hx, (h.disk.locate x.1).symm.trans hl⟩

theorem checkOut_follows (g : InMemory) (files : List (Path × String)) :
    (g.checkOut files).2.remoteFiles = g.remoteFiles ∧
      (g.checkOut files).2.resets = g.resets ∧
      Disk.Evolves {l | ∃ x ∈ files, g.disk.locate x.1 = l} g.disk (g.checkOut files).2.disk := by
  induction files generalizing g with
  | nil => exact ⟨rfl, rfl, .refl _ _⟩
  | cons x files ih =>
    obtain ⟨q, content⟩ := x
    unfold checkOut
    split
    · exact ⟨rfl, rfl, .refl _ _⟩
    · rename_i d hd
      have hev := (Disk.write_eq_ok hd).1
      obtain ⟨hremote, hresets, hrest⟩ := ih (markCommitted { g with disk := d } q)
      refine ⟨hremote, hresets, (hev.mono ?_).trans (hrest.mono ?_)⟩
      · rintro l rfl
        exact ⟨_, List.mem_cons_self, rfl⟩
      · rintro l ⟨x, hx, rfl⟩
        exact ⟨x, List.mem_cons_of_mem _ hx, (hev.locate x.1).symm⟩

theorem follows_handle (p : Path) (c : Call) (g : InMemory) : Follows p g (handle p c g).2 := by
  cases c with
  | append e =>
    refine ⟨rfl, List.prefix_rfl, (Changelog.evolves_append g.disk p e).mono ?_⟩
    rintro l rfl
    exact .inl rfl
  | push remote branch token =>
    rw [handle, InMemory.push]
    split <;> exact .of_eq rfl rfl rfl
  | reset remote branch token =>
    obtain ⟨hremote, hresets, hev⟩ :=
      checkOut_follows { g with resets := g.resets ++ [(remote, branch)] } g.remoteFiles
    refine ⟨hremote, ⟨_, hresets.symm⟩, hev.mono ?_⟩
    rintro l ⟨x, hx, hl⟩
    refine .inr ⟨?_, x, hx, hl⟩
    rw [handle, InMemory.reset, hresets]
    simp
  | commit message q author => exact .of_eq (commit_disk g message q author) rfl rfl
  | lastLine | isChanged _ | ahead _ _ => exact .refl p g

theorem follows_exec {α : Type} (p : Path) (plan : Plan α) (g : InMemory) :
    Follows p g (plan.exec (handle p) g).2 :=
  Plan.exec_rel (.refl p) (fun _ _ _ => .trans) (follows_handle p) plan g

theorem Follows.of_exec {plan : Plan α} {r : Except Failure α}
    (h : plan.exec (handle p) g = (r, g')) : Follows p g g' := by
  have hfollows := follows_exec p plan g
  rwa [h] at hfollows

/-- What the remote has for the document: a text, and no other text under another name of it. -/
structure Offers (g : InMemory) (p : Path) (content : String) : Prop where
  lookup_eq : lookup p g.remoteFiles = some content
  same : ∀ x ∈ g.remoteFiles, g.disk.locate x.1 = g.disk.locate p → x.2 = content

theorem exists_mem_of_lookup {a : α} {table : List (Path × α)} (h : lookup p table = some a) :
    ∃ x ∈ table, x.1.components = p.components := by
  obtain ⟨x, hx, -⟩ := Option.map_eq_some_iff.1 h
  exact ⟨x, List.mem_of_find?_eq_some hx, by simpa using List.find?_some hx⟩

theorem stands_markCommitted {d : Disk} {b : ByteArray} {content written : String}
    (hread : g.disk.read p = .ok b) (hd : g.disk.write q written.toUTF8 = .ok d)
    (hsame : g.disk.locate q = g.disk.locate p → written = content)
    (h : g.Stands p content ∨ q.components = p.components) :
    (markCommitted { g with disk := d } q).Stands p content := by
  obtain ⟨hev, hq⟩ := Disk.write_eq_ok hd
  have hp : d.read p = .ok content.toUTF8 := by
    by_cases hl : g.disk.locate q = g.disk.locate p
    · -- the file is written under another name of it
      rw [hsame hl] at hq
      rw [Disk.read_eq_ok, hev.locate] at hq ⊢
      exact ⟨hev.resolve (Disk.read_eq_ok.1 hread).1, hl ▸ hq.2⟩
    · have hne : q.components ≠ p.components := fun hc => hl (g.disk.locate_congr hc)
      exact hev.read (fun hmem => hl (Set.mem_singleton_iff.1 hmem).symm)
        (h.resolve_right hne).read
  refine ⟨hp, ?_⟩
  by_cases hc : q.components = p.components
  · have hr : InMemory.read { g with disk := d } q = some content := by
      rw [read_eq_some, ← hsame (g.disk.locate_congr hc)]
      exact hq
    rw [markCommitted, hr, ← lookup_congr hc, lookup_insert]
  · rw [markCommitted, lookup_insert_of_ne (Ne.symm hc)]
    exact (h.resolve_right hc).snapshot

theorem stands_checkOut {b : ByteArray} {content : String} {files : List (Path × String)}
    (hread : g.disk.read p = .ok b)
    (hsame : ∀ x ∈ files, g.disk.locate x.1 = g.disk.locate p → x.2 = content)
    (hfiles : g.Stands p content ∨ ∃ x ∈ files, x.1.components = p.components)
    (h : g.checkOut files = (.ok (), g')) : g'.Stands p content := by
  induction files generalizing g b with
  | nil =>
    cases h
    simpa using hfiles
  | cons x files ih =>
    obtain ⟨q, written⟩ := x
    unfold checkOut at h
    split at h
    · cases h
    rename_i d hd
    have hev := (Disk.write_eq_ok hd).1
    obtain ⟨b', hb'⟩ := hev.exists_read hread
    -- either the document stands already, or its own file is yet to come
    have hfirst := stands_markCommitted hread hd (hsame (q, written) List.mem_cons_self)
    refine ih (g := markCommitted { g with disk := d } q) hb' ?_ ?_ h
    · intro x hx hl
      have hl' : d.locate x.1 = d.locate p := hl
      rw [hev.locate, hev.locate] at hl'
      exact hsame x (List.mem_cons_of_mem _ hx) hl'
    · rcases hfiles with hs | ⟨x, hx, hc⟩
      · exact .inl (hfirst (.inl hs))
      rcases List.mem_cons.1 hx with rfl | hx
      · exact .inl (hfirst (.inr hc))
      · exact .inr ⟨x, hx, hc⟩

theorem stands_reset {b : ByteArray} {content remote branch : String}
    (hread : g.disk.read p = .ok b) (hoffers : g.Offers p content)
    (h : g.reset remote branch = (.ok (), g')) : g'.Stands p content :=
  stands_checkOut (g := { g with resets := g.resets ++ [(remote, branch)] }) hread hoffers.same
    (.inr (exists_mem_of_lookup hoffers.lookup_eq)) h

theorem Offers.of_follows {content : String} (h : Follows p g g') (ho : g.Offers p content) :
    g'.Offers p content where
  lookup_eq := by rw [h.remoteFiles, ho.lookup_eq]
  same x hx hl := by
    rw [h.disk.locate, h.disk.locate] at hl
    exact ho.same x (h.remoteFiles ▸ hx) hl

theorem Stands.congr {content : String} (h : g.Stands p content) (hdisk : g'.disk = g.disk)
    (hsnapshots : g'.snapshots = g.snapshots) : g'.Stands p content :=
  ⟨hdisk ▸ h.read, hsnapshots ▸ h.snapshot⟩

theorem push_keeps {remote branch : String} {token : Option String} {r : Except Failure Unit}
    (h : g.push remote branch token = (r, g')) :
    g'.disk = g.disk ∧ g'.snapshots = g.snapshots ∧ g'.resets = g.resets := by
  unfold InMemory.push at h
  split at h <;> cases h <;> exact ⟨rfl, rfl, rfl⟩

theorem reset_error {remote branch command details : String} :
    (g.reset remote branch).1 ≠ .error (.git command details) := by
  suffices ∀ (files : List (Path × String)) (g : InMemory),
      (g.checkOut files).1 ≠ .error (.git command details) from this _ _
  intro files
  induction files with
  | nil => nofun
  | cons x files ih =>
    intro g
    obtain ⟨q, content⟩ := x
    unfold checkOut
    split
    · nofun
    · exact ih _

theorem resets_reset {remote branch : String} {r : Except Failure Unit}
    (h : g.reset remote branch = (r, g')) : g'.resets = g.resets ++ [(remote, branch)] := by
  have hresets := (checkOut_follows
    { g with resets := g.resets ++ [(remote, branch)] } g.remoteFiles).2.1
  rw [InMemory.reset] at h
  rwa [h] at hresets

/-- After a rejected push and a reset, an attempt that succeeds leaves the entry recorded in the
document of the remote. -/
theorem retry_eq_ok {job : Job} {message : Except Failure String} {author : Author}
    {attempt : Job.Attempt} {g₁ g₂ : InMemory} {b : ByteArray} {failure : Failure}
    (hp : job.path = p) (hread : g.disk.read p = .ok b)
    (hpush : g.push job.remote job.branch job.token = (.error failure, g₁))
    (hreset : g₁.reset job.remote job.branch = (.ok (), g₂))
    (hattempt : (job.attempt message author).exec (handle p) g₂ = (.ok attempt, g')) :
    Follows p g g' ∧ g'.resets ≠ g.resets ∧
    ∃ content, g'.Stands p (recorded content job.entry) ∧
      (attempt.appended = true ↔ recorded content job.entry ≠ content) ∧
      ∀ text, g.Offers p text → content = text := by
  have hpush' : Follows p g g₁ := by
    have h := follows_handle p (.push job.remote job.branch job.token) g
    rwa [handle, hpush] at h
  have hreset' : Follows p g₁ g₂ := by
    have h := follows_handle p (.reset job.remote job.branch job.token) g₁
    rwa [handle, hreset] at h
  have hattempt' := Follows.of_exec hattempt
  have hne : g₂.resets ≠ g₁.resets := by simp [resets_reset hreset]
  have hne' : g'.resets ≠ g.resets := fun heq =>
    hreset'.resets_ne hattempt' hne ((hreset'.trans hattempt').resets.eq_of_length_le
      (heq ▸ hpush'.resets.length_le)).symm
  refine ⟨(hpush'.trans hreset').trans hattempt', hne', ?_⟩
  -- what could be read before the push can be read after the reset
  obtain ⟨b₁, hread₁⟩ := hpush'.disk.exists_read hread
  obtain ⟨b₂, hread₂⟩ := hreset'.disk.exists_read hread₁
  have hfile : g₂.disk.Holds p (some b₂) := hread₂
  obtain ⟨content, htext, hstands, happended⟩ := attempt_eq_ok hp hfile hattempt
  refine ⟨content, hstands, happended, fun text hoffers => ?_⟩
  have hread' := (stands_reset hread₁ (hoffers.of_follows hpush') hreset).read
  rw [hread₂] at hread'
  cases hread'
  exact Changelog.text?_toUTF8 htext

end MergeNotes.Git.InMemory
