import MergeNotes.Git.Checkout
import MergeNotes.Proofs.Presence
import MergeNotes.Proofs.Series
import MergeNotes.Proofs.Skipped

namespace MergeNotes.Update

variable {α σ : Type} {handle : (c : Call) → σ → Except Failure c.Reply × σ} {s s' : σ} {job : Job}
  {author : Author} {config : Config} {event : Event} {options : Options} {entry : Entry}
  {o o' : Outcome}

namespace Job

def note (job : Job) : Plan Bool := job.record fun added => .done (.ok added)

theorem record_eq_bind (job : Job) (next : Bool → Plan α) :
    job.record next = job.note.bind next := by
  rw [note, record_bind]
  rfl

theorem attempt_inv {message : Except Failure String} {attempt : Attempt}
    (h : (job.attempt message author).exec handle s = (.ok attempt, s')) :
    ∃ added s₁ changed s₂, job.note.exec handle s = (.ok added, s₁) ∧
      handle (.isChanged job.path) s₁ = (.ok changed, s₂) ∧
      (changed = true ∧ attempt.commit?.isSome ∨
        changed = false ∧ attempt = ⟨added, none⟩ ∧ s' = s₂) := by
  rw [Job.attempt, record_eq_bind, Plan.exec_bind] at h
  -- an attempt that succeeds got past recording and past asking what changed
  rcases hnote : job.note.exec handle s with ⟨_ | added, s₁⟩
  · rw [hnote] at h
    cases h
  rw [hnote] at h
  dsimp only at h
  rw [Plan.exec_ask] at h
  rcases hchanged : handle (.isChanged job.path) s₁ with ⟨_ | changed, s₂⟩
  · rw [hchanged] at h
    cases h
  rw [hchanged] at h
  refine ⟨added, s₁, changed, s₂, rfl, hchanged, ?_⟩
  cases changed with
  | false =>
    cases h
    exact .inr ⟨rfl, rfl, rfl⟩
  | true =>
    refine .inl ⟨rfl, ?_⟩
    cases message with
    | error err => cases h
    | ok m =>
      simp only [if_true, Plan.exec_ask] at h
      rcases hcommit : handle (.commit m job.path author) s₂ with ⟨_ | sha, s₃⟩
      · rw [hcommit] at h
        cases h
      · rw [hcommit] at h
        cases h
        rfl

/-- An attempt commits unless the document, with the entry recorded, is said to be unchanged. -/
theorem commit?_eq_none_iff {message : Except Failure String} {attempt : Attempt}
    (h : (job.attempt message author).exec handle s = (.ok attempt, s')) :
    attempt.commit? = none ↔
      (handle (.isChanged job.path) (job.note.exec handle s).2).1 = .ok false := by
  obtain ⟨added, s₁, changed, s₂, hnote, hchanged, ⟨rfl, hsome⟩ | ⟨rfl, rfl, -⟩⟩ := attempt_inv h
  · rw [hnote, hchanged, ← Option.not_isSome_iff_eq_none, hsome]
    simp
  · rw [hnote, hchanged]
    simp

theorem isChanged_of_attempt {message : Except Failure String} {appended : Bool}
    (hkeep : ∀ s, (handle (.isChanged job.path) s).2 = s)
    (h : (job.attempt message author).exec handle s = (.ok ⟨appended, none⟩, s')) :
    (handle (.isChanged job.path) s').1 = .ok false := by
  obtain ⟨added, s₁, changed, s₂, -, hchanged, ⟨-, hsome⟩ | ⟨rfl, -, rfl⟩⟩ := attempt_inv h
  · cases hsome
  · have hs := hkeep s₁
    rw [hchanged] at hs
    rw [show s' = s₁ from hs, hchanged]

theorem isChanged_of_pushes {message : String} {n : Nat}
    (hkeep : ∀ s, (handle (.isChanged job.path) s).2 = s)
    (h : Pushes handle job message author n o s (.ok o') s') (ho : o.committed = true)
    (ho' : o'.committed = false) : (handle (.isChanged job.path) s').1 = .ok false := by
  generalize hr : Except.ok o' = r at h
  induction h with
  | accepted push =>
    cases hr
    rw [ho] at ho'
    cases ho'
  | refused | unreset | failed => cases hr
  | present push reset attempt => exact isChanged_of_attempt hkeep attempt
  | again push reset attempt rest ih => exact ih ho hr

end Job

theorem isChanged_of_delivers
    (hkeep : ∀ s, (handle (.isChanged config.changelog.path) s).2 = s)
    (hahead : ∀ remote branch s, (handle (.ahead remote branch) s).2 = s)
    (h : Delivers handle config event options entry s (.ok o) s') (ho : o.committed = false) :
    (handle (.isChanged config.changelog.path) s').1 = .ok false := by
  generalize hr : Except.ok o = r at h
  cases h with
  | failed attempt => cases hr
  | @unchanged s₁ _ _ _ attempt ahead =>
    have hs := hahead config.push.remote event.targetBranch s₁
    rw [ahead] at hs
    rw [show s' = s₁ from hs]
    exact Job.isChanged_of_attempt hkeep attempt
  | kept unpushed attempt =>
    cases hr
    cases ho
  | pushed push attempt pushes =>
    subst hr
    exact Job.isChanged_of_pushes hkeep pushes rfl ho

theorem committed_of_delivers (h : Delivers handle config event options entry s (.ok o) s') :
    let reply := (handle (.isChanged config.changelog.path)
      ((Job.ofConfig config event options entry).note.exec handle s).2).1
    (reply = .ok false → o.committed = false) ∧
      (options.push = false ∨ config.push.retries = 0 → reply ≠ .ok false →
        o.committed = true) := by
  intro reply
  generalize hr : Except.ok o = r at h
  cases h with
  | failed attempt => cases hr
  | @unchanged _ _ _ count attempt ahead =>
    have hreply : reply = .ok false := (Job.commit?_eq_none_iff attempt).1 rfl
    cases count with
    | error err => cases hr
    | ok count =>
      cases hr
      exact ⟨fun _ => rfl, fun _ hne => absurd hreply hne⟩
  | kept unpushed attempt =>
    cases hr
    have hreply : reply ≠ .ok false := fun heq =>
      nomatch (Job.commit?_eq_none_iff attempt).2 heq
    exact ⟨fun h => absurd h hreply, fun _ _ => rfl⟩
  | pushed push attempt pushes =>
    subst hr
    have hreply : reply ≠ .ok false := fun heq =>
      nomatch (Job.commit?_eq_none_iff attempt).2 heq
    refine ⟨fun h => absurd h hreply, ?_⟩
    -- either there is no push, or the only one was accepted
    rintro (hpush | hretries) -
    · rw [push] at hpush
      cases hpush
    · rw [hretries] at pushes
      cases pushes
      rfl

theorem exists_delivers {today : Date}
    (h : (plan config event options today).exec handle s = (.ok o, s')) (ho : o.appended = true) :
    ∃ e, entryOf config event options today = .ok (.ok e) ∧
      Delivers handle config event options e s (.ok o) s' := by
  cases runs_of_exec h with
  | skipped entry => cases ho
  | delivered entry delivers => exact ⟨_, entry, delivers⟩

end MergeNotes.Update

namespace MergeNotes.Git.InMemory

open Update (Job Options Author Outcome Delivers)

variable {g g' : InMemory} {p : Path} {job : Job} {content : String} {author : Author}
  {config : Config} {event : Event} {options : Options} {e : Entry}

theorem note_state (p : Path) (job : Job) (g : InMemory) :
    (job.note.exec (handle p) g).2 =
      { g with disk := (Changelog.record g.disk p job.entry).2 } := by
  rw [Job.note, exec_record]
  rcases Changelog.record g.disk p job.entry with ⟨_ | added, d⟩ <;> rfl

/-- What the remote has where the document lies, it has under the name of the document. -/
def Unaliased (g : InMemory) (p : Path) : Prop :=
  ∀ x ∈ g.remoteFiles, g.disk.locate x.1 = g.disk.locate p → x.1.components = p.components

theorem Follows.unaliased (h : Follows p g g') (hg : g.Unaliased p) : g'.Unaliased p := by
  intro x hx hl
  rw [h.disk.locate, h.disk.locate] at hl
  exact hg x (h.remoteFiles ▸ hx) hl

/-- The document can be read and is as it was last committed, be it a text or not. -/
structure IsCommitted (g : InMemory) (p : Path) : Prop where
  exists_read : ∃ b, g.disk.read p = .ok b
  unchanged : g.isChanged p = false

theorem Stands.isCommitted (h : g.Stands p content) : g.IsCommitted p :=
  ⟨⟨_, h.read⟩, h.isChanged⟩

theorem IsCommitted.congr (h : g.IsCommitted p) (hdisk : g'.disk = g.disk)
    (hsnapshots : g'.snapshots = g.snapshots) : g'.IsCommitted p where
  exists_read := hdisk ▸ h.exists_read
  unchanged := by
    rw [isChanged, InMemory.read, hdisk, hsnapshots]
    exact h.unchanged

theorem isCommitted_commit {b : ByteArray} (h : g.disk.read p = .ok b) (message : String)
    (author : Author) : (g.commit message p author).2.IsCommitted p where
  exists_read := ⟨b, h⟩
  unchanged := by
    rw [isChanged, commit_snapshots, lookup_insert]
    simp [InMemory.read, commit_disk]

theorem IsCommitted.push {remote branch : String} {token : Option String}
    {r : Except Failure Unit} (hg : g.IsCommitted p)
    (h : g.push remote branch token = (r, g')) : g'.IsCommitted p := by
  obtain ⟨hdisk, hsnapshots, -⟩ := push_keeps h
  exact hg.congr hdisk hsnapshots

theorem IsCommitted.checkOut {files : List (Path × String)} (hg : g.IsCommitted p)
    (hfiles : ∀ x ∈ files, g.disk.locate x.1 = g.disk.locate p → x.1.components = p.components)
    (h : g.checkOut files = (.ok (), g')) : g'.IsCommitted p := by
  induction files generalizing g with
  | nil =>
    cases h
    exact hg
  | cons x files ih =>
    obtain ⟨q, written⟩ := x
    unfold InMemory.checkOut at h
    split at h
    · cases h
    rename_i d hd
    have hev := (Disk.write_eq_ok hd).1
    obtain ⟨b, hread⟩ := hg.exists_read
    have hnext : (markCommitted { g with disk := d } q).IsCommitted p := by
      by_cases hl : g.disk.locate q = g.disk.locate p
      · have hc : q.components = p.components := hfiles (q, written) List.mem_cons_self hl
        exact (stands_markCommitted hread hd (fun _ => rfl) (.inr hc)).isCommitted
      · -- another file is written, and the document is what it was
        have hne : q.components ≠ p.components := fun hc => hl (g.disk.locate_congr hc)
        have hread' : d.read p = .ok b :=
          hev.read (fun hmem => hl (Set.mem_singleton_iff.1 hmem).symm) hread
        have hsame : InMemory.read { g with disk := d } p = g.read p := by
          rw [InMemory.read, InMemory.read, Disk.readText, Disk.readText, hread, hread']
        have hkept := hg.unchanged
        rw [isChanged, ← hsame,
          ← lookup_insert_of_ne hne.symm (InMemory.read { g with disk := d } q)] at hkept
        exact ⟨⟨b, hread'⟩, hkept⟩
    refine ih (g := markCommitted { g with disk := d } q) hnext (fun x hx hl => ?_) h
    have hl' : d.locate x.1 = d.locate p := hl
    rw [hev.locate, hev.locate] at hl'
    exact hfiles x (List.mem_cons_of_mem _ hx) hl'

theorem IsCommitted.reset {remote branch : String} (hg : g.IsCommitted p)
    (hremote : g.Unaliased p) (h : g.reset remote branch = (.ok (), g')) : g'.IsCommitted p :=
  IsCommitted.checkOut (g := { g with resets := g.resets ++ [(remote, branch)] })
    (hg.congr rfl rfl) hremote h

/-- What an attempt can work with is a text. -/
theorem IsCommitted.stands {message : Except Failure String} {attempt : Job.Attempt}
    (hg : g.IsCommitted p)
    (h : (job.attempt message author).exec (handle p) g = (.ok attempt, g')) :
    ∃ content, g.Stands p content := by
  obtain ⟨b, hread⟩ := hg.exists_read
  have hholds : g.disk.Holds p (some b) := hread
  obtain ⟨added, d, hrecord⟩ : ∃ added d, Changelog.record g.disk p job.entry = (.ok added, d) := by
    cases attempted_of_exec h with
    | committed record => exact ⟨_, _, record⟩
    | unchanged record => exact ⟨_, _, record⟩
  obtain ⟨content, htext, -⟩ := Changelog.record_eq_ok hholds hrecord
  obtain rfl := fromUTF8?_eq_some.1 htext
  exact ⟨content, hread, (isChanged_eq_false hread).1 hg.unchanged⟩

theorem IsCommitted.appended_eq_false {message : Except Failure String} {appended : Bool}
    (hp : job.path = p) (hg : g.IsCommitted p)
    (h : (job.attempt message author).exec (handle p) g = (.ok ⟨appended, none⟩, g')) :
    appended = false := by
  obtain ⟨content, hstands⟩ := hg.stands h
  have hcommit := hstands.isClean.isSome_commit? hp h
  rw [← (hstands.isClean.attempt hp h).1] at hcommit
  exact hcommit.symm

/-- After a retry an entry that is added is committed. -/
theorem committed_of_pushes {message : String} {n : Nat} {o o' : Outcome} (hp : job.path = p)
    (h : Job.Pushes (handle p) job message author n o g (.ok o') g') (hg : g.IsCommitted p)
    (ho : o.committed = true) (hremote : g.Unaliased p ∨ g'.resets = g.resets)
    (happended : o'.appended = true) : o'.committed = true := by
  generalize hr : Except.ok o' = r at h
  -- each push starts with the document committed, and a reset leaves it so
  induction h with
  | accepted push =>
    cases hr
    exact ho
  | refused | unreset | failed => cases hr
  | @present n o s s₁ s₂ s' failure appended push reset attempt =>
    cases hr
    obtain ⟨b, hread⟩ := hg.exists_read
    obtain ⟨-, hne, -⟩ := retry_eq_ok hp hread push reset attempt
    have hpush := follows_handle p (.push job.remote job.branch job.token) s
    rw [push] at hpush
    have hunaliased := hpush.unaliased (hremote.resolve_right hne)
    have happended' := ((hg.push push).reset hunaliased reset).appended_eq_false hp attempt
    rw [happended'] at happended
    cases happended
  | @again n o s s₁ s₂ s₃ s' failure appended m sha r push reset attempt rest ih =>
    obtain ⟨b, hread⟩ := hg.exists_read
    obtain ⟨hfollows, hne, content, hstands, -⟩ := retry_eq_ok hp hread push reset attempt
    have hunaliased := hremote.resolve_right (hfollows.resets_ne (.of_exec rest.exec_eq) hne)
    exact ih hstands.isCommitted ho (.inl (hfollows.unaliased hunaliased)) hr

theorem isCommitted_of_attempt {message : Except Failure String} {appended : Bool}
    {m sha : String} (hp : job.path = p)
    (h : (job.attempt message author).exec (handle p) g = (.ok ⟨appended, some (m, sha)⟩, g')) :
    g'.IsCommitted p := by
  obtain ⟨b, hread⟩ := exists_read_of_attempt h
  subst hp
  cases attempted_of_exec h with
  | @committed _ d => exact isCommitted_commit (g := { g with disk := d }) hread m author

/-- A run that adds its entry commits nothing exactly if the document with the entry is what was
committed before. -/
theorem committed_iff_of_delivers {o : Outcome}
    (h : Delivers (handle config.changelog.path) config event options e g (.ok o) g')
    (hremote : g.Unaliased config.changelog.path ∨ g'.resets = g.resets)
    (happended : o.appended = true) :
    o.committed = false ↔
      isChanged { g with disk := (Changelog.record g.disk config.changelog.path e).2 }
        config.changelog.path = false := by
  have hp : (Job.ofConfig config event options e).path = config.changelog.path := rfl
  have hfirst := (Update.committed_of_delivers h).1
  rw [note_state, handle] at hfirst
  refine ⟨fun ho => ?_, fun hreply => hfirst (congrArg Except.ok hreply)⟩
  generalize hr : Except.ok o = r at h
  cases h with
  | failed attempt => cases hr
  | unchanged attempt ahead =>
    have hreply := (Job.commit?_eq_none_iff attempt).1 rfl
    rw [note_state] at hreply
    exact Except.ok.inj hreply
  | kept unpushed attempt =>
    cases hr
    cases ho
  | pushed push attempt pushes =>
    subst hr
    have hfollows := Follows.of_exec attempt
    have hremote' : _ ∨ _ := hremote.imp hfollows.unaliased (resets_attempt attempt ▸ ·)
    rw [committed_of_pushes hp pushes (isCommitted_of_attempt hp attempt) rfl hremote'
      happended] at ho
    cases ho

end MergeNotes.Git.InMemory

namespace MergeNotes.Git

open Update (Job Options Outcome entryOf)

theorem Host.note_state (root document : Path) (job : Job) (h : Host) :
    (job.note.exec (handle root document) h).2 =
      { h with disk := (Changelog.record h.disk document job.entry).2 } := by
  rw [Job.note, Job.record, Update.Plan.exec_ask, handle, Changelog.record]
  cases Changelog.readLastLine h.disk document with
  | error err => rfl
  | ok last =>
    simp only [Except.mapError]
    split_ifs
    · rfl
    · rw [Update.Plan.exec_ask, handle]
      rcases Changelog.append h.disk document job.entry with ⟨_ | _, d⟩ <;> rfl

/-- A run that adds its entry and ends well commits it, but for one case: the repository says that
the document with the entry does not differ from what is committed. In memory that is decided by
what was committed at first, as long as the remote has the document under its own name only. -/
theorem committed_of_appended (config : Config) (event : Event) (options : Options) (today : Date) :
    (∀ (g g' : InMemory) (o : Outcome), g.run config event options today = (.ok o, g') →
      o.appended = true → ∃ e, entryOf config event options today = .ok (.ok e) ∧
        (o.committed = false → g'.isChanged config.changelog.path = false) ∧
        (g.Unaliased config.changelog.path ∨ g'.resets = g.resets →
          (o.committed = false ↔ InMemory.isChanged
            { g with disk := (Changelog.record g.disk config.changelog.path e).2 }
              config.changelog.path = false))) ∧
    ∀ (h h' : Host) (root : Path) (o : Outcome),
      h.run root config event options today = (.ok o, h') → o.appended = true →
      ∃ e, entryOf config event options today = .ok (.ok e) ∧
        let noted :=
          { h with disk := (Changelog.record h.disk (root.join config.changelog.path) e).2 }
        let asked := Path.relativeTo root config.changelog.path
        (o.committed = false → h'.isChanged root asked = .ok false) ∧
        (Host.isChanged noted root asked = .ok false → o.committed = false) ∧
        (options.push = false ∨ config.push.retries = 0 →
          Host.isChanged noted root asked ≠ .ok false → o.committed = true) := by
  refine ⟨fun g g' o hrun ho => ?_, fun h h' root o hrun ho => ?_⟩
  · obtain ⟨e, hentry, hdelivers⟩ := Update.exists_delivers hrun ho
    refine ⟨e, hentry, fun hc => ?_, fun hremote =>
      InMemory.committed_iff_of_delivers hdelivers hremote ho⟩
    have hreply := Update.isChanged_of_delivers (fun _ => rfl) (fun _ _ _ => rfl) hdelivers hc
    exact Except.ok.inj hreply
  · obtain ⟨e, hentry, hdelivers⟩ := Update.exists_delivers hrun ho
    have hfirst := Update.committed_of_delivers hdelivers
    rw [Host.note_state] at hfirst
    exact ⟨e, hentry,
      Update.isChanged_of_delivers (fun _ => rfl) (fun _ _ _ => rfl) hdelivers, hfirst⟩

theorem committed_of_appended_plain :
    ∃ (o : Outcome) (g' : InMemory),
      (InMemory.holding "# Notes\n" "# Notes\n").run {} (.ofDescription "Ours" "main" none)
        { push := false } ⟨2024, 5, 1⟩ = (.ok o, g') ∧ o.appended = true ∧ o.committed = true := by
  have happended : ((InMemory.holding "# Notes\n" "# Notes\n").run {}
      (.ofDescription "Ours" "main" none) { push := false } ⟨2024, 5, 1⟩).1.toOption.map
        (·.appended) = some true := by decide +kernel
  have hours : entryOf {} (.ofDescription "Ours" "main" none) { push := false } ⟨2024, 5, 1⟩ =
      .ok (.ok .ours) := by decide +kernel
  have hchanged : InMemory.isChanged { InMemory.holding "# Notes\n" "# Notes\n" with
      disk := (Changelog.record (InMemory.holding "# Notes\n" "# Notes\n").disk ⟨"CHANGELOG.md"⟩
        .ours).2 } ⟨"CHANGELOG.md"⟩ = true := by decide +kernel
  obtain ⟨r, g', hrun⟩ : ∃ r g', (InMemory.holding "# Notes\n" "# Notes\n").run {}
      (.ofDescription "Ours" "main" none) { push := false } ⟨2024, 5, 1⟩ = (r, g') :=
    ⟨_, _, (Prod.eta _).symm⟩
  rw [hrun] at happended
  cases r with
  | error err => cases happended
  | ok o =>
    have ho : o.appended = true := Option.some.inj happended
    obtain ⟨e, hentry, -, hiff⟩ := (committed_of_appended _ _ _ _).1 _ _ _ hrun ho
    rw [hours] at hentry
    cases hentry
    refine ⟨o, g', hrun, ho, ?_⟩
    by_contra hc
    have hunchanged := (hiff (.inl nofun)).1 (by simpa using hc)
    exact absurd (hchanged.symm.trans hunchanged) (by decide)

/-- A document that lacks an entry which is committed gets it back, and there is nothing to
commit. -/
theorem appended_of_unchanged :
    ∃ (o : Outcome) (g' : InMemory),
      (InMemory.holding "# Changelog\n" "# Changelog\n- Add export\n").run {}
        (.ofDescription "Add export" "main" none) { push := false } ⟨2024, 5, 1⟩ = (.ok o, g') ∧
      o.appended = true ∧ o.committed = false ∧ o.skippedReason = some "Changelog unchanged" ∧
      g'.commits = [] := by
  have hrun : ((InMemory.holding "# Changelog\n" "# Changelog\n- Add export\n").run {}
      (.ofDescription "Add export" "main" none) { push := false } ⟨2024, 5, 1⟩).1 =
        .ok { appended := true, entry := some "- Add export", branch := some "main",
              skippedReason := some "Changelog unchanged" } := by decide +kernel
  have hcommits : ((InMemory.holding "# Changelog\n" "# Changelog\n- Add export\n").run {}
      (.ofDescription "Add export" "main" none) { push := false } ⟨2024, 5, 1⟩).2.commits.length =
        0 := by decide +kernel
  exact ⟨_, _, Prod.ext hrun rfl, rfl, rfl, rfl, List.length_eq_zero_iff.1 hcommits⟩

end MergeNotes.Git
