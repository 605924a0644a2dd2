import MergeNotes.Proofs.Presence
import MergeNotes.Proofs.Series
import MergeNotes.Proofs.Writable

namespace MergeNotes.Git.InMemory

open Update (Job Options Plan Author Outcome authorOf entryOf plan firstAttempt)
open Changelog (endsWith lastLine?)

variable {g g' g'' : InMemory} {p : Path} {job : Job} {message remote branch content : String}
  {author : Author} {token : Option String}

theorem push_cases {r : Except Failure Unit} (h : g.push remote branch token = (r, g')) :
    (g.failingPushes = 0 ∧ r = .ok ()) ∨
      ∃ k, g.failingPushes = k + 1 ∧ r = .error (rejection remote branch) ∧
        g' = { g with failingPushes := k } := by
  unfold InMemory.push at h
  split at h
  · rename_i k hk
    cases h
    exact .inr ⟨k, hk, rfl, rfl⟩
  · rename_i hk
    cases h
    exact .inl ⟨hk, rfl⟩

theorem failingPushes_reset {r : Except Failure Unit} (h : g.reset remote branch = (r, g')) :
    g'.failingPushes = g.failingPushes := by
  obtain ⟨disk, snapshots, rfl⟩ := reset_eq h
  rfl

theorem failingPushes_attempt {message : Except Failure String} {r : Except Failure Job.Attempt}
    (h : (job.attempt message author).exec (handle p) g = (r, g')) :
    g'.failingPushes = g.failingPushes := by
  cases attempted_of_exec h <;> rfl

/-- The remote has that text for the document and nothing else, and the document is there to be
replaced by it. -/
structure OffersOnly (g : InMemory) (p : Path) (content : String) : Prop where
  rooted : g.disk.IsRooted
  exists_read : ∃ b, g.disk.read p = .ok b
  remoteFiles : g.remoteFiles = [(p, content)]

theorem OffersOnly.of_follows (h : Follows p g g') (hg : g.OffersOnly p content) :
    g'.OffersOnly p content where
  rooted := h.disk.isRooted hg.rooted
  exists_read := hg.exists_read.elim fun _ hb => h.disk.exists_read hb
  remoteFiles := h.remoteFiles.trans hg.remoteFiles

theorem OffersOnly.of_push {r : Except Failure Unit} (hg : g.OffersOnly p content)
    (h : g.push remote branch token = (r, g')) : g'.OffersOnly p content := by
  have hfollows := follows_handle p (.push remote branch token) g
  rw [handle, h] at hfollows
  exact .of_follows hfollows hg

theorem OffersOnly.offers (hg : g.OffersOnly p content) : g.Offers p content where
  lookup_eq := by rw [hg.remoteFiles, lookup_cons, if_pos rfl]
  same := by
    rw [hg.remoteFiles]
    simp

theorem OffersOnly.reset (hg : g.OffersOnly p content) (remote branch : String) :
    ∃ g', g.reset remote branch = (.ok (), g') ∧ g'.Stands p content := by
  obtain ⟨b, hread⟩ := hg.exists_read
  obtain ⟨d, hd⟩ := Disk.exists_write_of_read hg.rooted hread content.toUTF8
  obtain ⟨g', hreset⟩ : ∃ g', g.reset remote branch = (.ok (), g') := by
    rw [InMemory.reset, hg.remoteFiles]
    simp only [checkOut, hd]
    exact ⟨_, rfl⟩
  exact ⟨g', hreset, stands_reset hread hg.offers hreset⟩

/-- An attempt on a committed document never fails, and commits exactly if the document lacks the
entry. -/
theorem exists_attempt (hp : job.path = p) (hroot : g.disk.IsRooted) (hg : g.Stands p content)
    (message : String) (author : Author) :
    ∃ attempt g', (job.attempt (.ok message) author).exec (handle p) g = (.ok attempt, g') ∧
      attempt.commit?.isSome = !endsWith (lastLine? content) job.entry := by
  obtain ⟨added, d, hrecord⟩ := Changelog.exists_record_of_read hroot hg.read job.entry
  obtain ⟨attempt, g', hattempt⟩ : ∃ attempt g',
      (job.attempt (.ok message) author).exec (handle p) g = (.ok attempt, g') := by
    rw [exec_attempt, hrecord]
    dsimp only
    split_ifs <;> exact ⟨_, _, rfl⟩
  exact ⟨attempt, g', hattempt, hg.isClean.isSome_commit? hp hattempt⟩

def Logs (job : Job) (g g' : InMemory) (resets commits pushes : Nat) : Prop :=
  ∃ made : List Commit, made.length = commits ∧
    Adds g g' made (List.replicate pushes (job.remote, job.branch, job.token))
      (List.replicate resets (job.remote, job.branch))

theorem Logs.trans {k n m k' n' m' : Nat} (h : Logs job g g' k n m)
    (h' : Logs job g' g'' k' n' m') : Logs job g g'' (k + k') (n + n') (m + m') := by
  obtain ⟨made, hmade, hadds⟩ := h
  obtain ⟨made', hmade', hadds'⟩ := h'
  refine ⟨made ++ made', by rw [List.length_append, hmade, hmade'], ?_⟩
  rw [List.replicate_add, List.replicate_add]
  exact hadds.trans hadds'

/-- What pushes come to on a remote that has the entry, or has not, by how many of them are rejected
and how many may be tried again; so many commits were made before. -/
structure Settles (job : Job) (present : Bool) (rejections retries made : Nat)
    (r : Except Failure Outcome) (g g' : InMemory) : Prop where
  pushed : rejections = 0 ∨ rejections ≤ retries ∧ present = false →
    ∃ o, r = .ok o ∧ o.pushed = true ∧ Logs job g g' rejections (rejections + made) 1
  exhausted : retries < rejections → retries = 0 ∨ present = false →
    ∃ command details, r = .error (.git command details) ∧
      Logs job g g' retries (retries + made) 0 ∧ g'.failingPushes = rejections - retries - 1
  stopped : 1 ≤ rejections → 1 ≤ retries → present = true →
    ∃ o, r = .ok o ∧ o.committed = false ∧ o.pushed = false ∧ o.commitSha = none ∧
      Logs job g g' 1 made 0 ∧ g'.failingPushes = rejections - 1

theorem Logs.congr {k n m k' n' m' : Nat} (h : Logs job g g' k n m) (hk : k = k') (hn : n = n')
    (hm : m = m') : Logs job g g' k' n' m' :=
  hk ▸ hn ▸ hm ▸ h

/-- A retry that commits anew takes one rejection and one more try. -/
theorem Settles.retry {k n : Nat} {r : Except Failure Outcome} (hlogs : Logs job g g' 1 1 0)
    (h : Settles job false k n 0 r g' g'') : Settles job false (k + 1) (n + 1) 0 r g g'' where
  pushed hk := by
    obtain ⟨o, hr, ho, hrest⟩ := h.pushed (.inr ⟨by omega, rfl⟩)
    exact ⟨o, hr, ho, (hlogs.trans hrest).congr (by omega) (by omega) rfl⟩
  exhausted hn _ := by
    obtain ⟨command, details, hr, hrest, hleft⟩ := h.exhausted (by omega) (.inr rfl)
    exact ⟨command, details, hr, (hlogs.trans hrest).congr (by omega) (by omega) rfl, by omega⟩
  stopped _ _ := nofun

theorem Settles.after {k n made : Nat} {present : Bool} {r : Except Failure Outcome}
    (hlogs : Logs job g g' 0 made 0) (h : Settles job present k n 0 r g' g'') :
    Settles job present k n made r g g'' where
  pushed hk := by
    obtain ⟨o, hr, ho, hrest⟩ := h.pushed hk
    exact ⟨o, hr, ho, (hlogs.trans hrest).congr (by omega) (by omega) rfl⟩
  exhausted hn hpresent := by
    obtain ⟨command, details, hr, hrest, hleft⟩ := h.exhausted hn hpresent
    exact ⟨command, details, hr, (hlogs.trans hrest).congr (by omega) (by omega) rfl, hleft⟩
  stopped hk hn hpresent := by
    obtain ⟨o, hr, hcommitted, hpushed, hsha, hrest, hleft⟩ := h.stopped hk hn hpresent
    exact ⟨o, hr, hcommitted, hpushed, hsha, (hlogs.trans hrest).congr rfl rfl rfl, hleft⟩

/-- A push that is rejected and a reset leave the document as the remote has it, with one rejection
less to come. -/
theorem retry_of_rejected {g₁ g₂ : InMemory} {failure : Failure} (hg : g.OffersOnly p content)
    (hpush : g.push job.remote job.branch job.token = (.error failure, g₁))
    (hreset : g₁.reset job.remote job.branch = (.ok (), g₂)) :
    g.failingPushes = g₂.failingPushes + 1 ∧ g₂.OffersOnly p content ∧ g₂.Stands p content ∧
      Logs job g g₂ 1 0 0 := by
  obtain ⟨-, hok⟩ | ⟨k, hk, -, hg₁⟩ := push_cases hpush
  · cases hok
  have hoffers := hg.of_push hpush
  have hfollows := follows_handle p (.reset job.remote job.branch job.token) g₁
  obtain ⟨_, hreset', hstands⟩ := hoffers.reset job.remote job.branch
  rw [hreset] at hreset'
  rw [handle, hreset] at hfollows
  cases hreset'
  refine ⟨?_, .of_follows hfollows hoffers, hstands, [], rfl,
    (adds_push hpush).trans (adds_reset hreset)⟩
  rw [failingPushes_reset hreset, hg₁, hk]

theorem settles_pushes {n : Nat} {o : Outcome} {r : Except Failure Outcome} (hp : job.path = p)
    (h : Job.Pushes (handle p) job message author n o g r g') (hg : g.OffersOnly p content)
    (ho : o.pushed = false) :
    Settles job (endsWith (lastLine? content) job.entry) g.failingPushes n 0 r g g' := by
  -- the remote decides whether an attempt after a reset commits anew, and it is the same each time
  induction h with
  | @accepted n o s s' push =>
    obtain ⟨hk, -⟩ | ⟨k, -, hr, -⟩ := push_cases push
    · rw [hk]
      exact ⟨fun _ => ⟨_, rfl, rfl, [], rfl, adds_push push⟩, nofun, nofun⟩
    · cases hr
  | @refused o s s' failure push =>
    obtain ⟨-, hr⟩ | ⟨k, hk, hr, hs'⟩ := push_cases push
    · cases hr
    · cases hr
      rw [hk]
      exact ⟨by simp, fun _ _ => ⟨_, _, rfl, ⟨[], rfl, adds_push push⟩, by simp [hs']⟩, nofun⟩
  | @unreset n o s s₁ s' failure failure' push reset =>
    obtain ⟨_, hreset, -⟩ := (hg.of_push push).reset job.remote job.branch
    rw [handle, hreset] at reset
    cases reset
  | @failed n o s s₁ s₂ s' failure failure' push reset attempt =>
    obtain ⟨-, hoffers, hstands, -⟩ := retry_of_rejected hg push reset
    obtain ⟨_, _, hattempt, -⟩ := exists_attempt hp hoffers.rooted hstands message author
    rw [hattempt] at attempt
    cases attempt
  | @present n o s s₁ s₂ s' failure appended push reset attempt =>
    obtain ⟨hk, -, hstands, hlogs⟩ := retry_of_rejected hg push reset
    have hpresent : endsWith (lastLine? content) job.entry = true := by
      simpa using hstands.isClean.isSome_commit? hp attempt
    have hnone : Logs job s₂ s' 0 0 0 := ⟨[], rfl, adds_attempt attempt⟩
    rw [hk, hpresent, ← failingPushes_attempt attempt]
    exact ⟨by simp, by simp, fun _ _ _ => ⟨_, rfl, rfl, ho, rfl, hlogs.trans hnone, rfl⟩⟩
  | @again n o s s₁ s₂ s₃ s' failure appended m sha r push reset attempt rest ih =>
    obtain ⟨hk, hoffers, hstands, hlogs⟩ := retry_of_rejected hg push reset
    have hlacks : endsWith (lastLine? content) job.entry = false := by
      simpa using hstands.isClean.isSome_commit? hp attempt
    have hcommit : Logs job s₂ s₃ 0 1 0 := ⟨_, rfl, adds_attempt attempt⟩
    have hrest := ih (.of_follows (.of_exec attempt) hoffers) ho
    rw [failingPushes_attempt attempt, hlacks] at hrest
    rw [hk, hlacks]
    exact hrest.retry (hlogs.trans hcommit)

/-- How often a run tries again, where the remote has nothing but its document and its first attempt
commits: as often as pushes are rejected and it may, one reset and one commit each time; but once
only if the document on the remote has the entry. -/
theorem run_settles {config : Config} {event : Event} {options : Options} {today : Date}
    {e : Entry} {attempt : Job.Attempt} {r : Except Failure Outcome} (hroot : g.disk.IsRooted)
    (hremote : g.remoteFiles = [(config.changelog.path, content)]) (hpush : options.push = true)
    (hentry : entryOf config event options today = .ok (.ok e))
    (hfirst : (firstAttempt config event options e).exec (handle config.changelog.path) g =
      (.ok attempt, g'')) (hcommitted : attempt.commit?.isSome)
    (hrun : g.run config event options today = (r, g')) :
    Settles (Job.ofConfig config event options e) (endsWith (lastLine? content) e)
      g.failingPushes config.push.retries 1 r g g' := by
  rw [InMemory.run, plan, hentry] at hrun
  obtain ⟨appended, _ | ⟨m, sha⟩⟩ := attempt
  · cases hcommitted
  -- after the first attempt the run is its pushes
  have hpushes := Job.pushes_exec (handle config.changelog.path)
    (Job.ofConfig config event options e) m (authorOf config.commit) config.push.retries
    (Update.committed event e appended sha) g''
  have hdeliver : (Update.deliver config event options e).exec (handle config.changelog.path) g =
      (r, g') := hrun
  rw [Update.deliver_eq, Plan.exec_bind, hfirst] at hdeliver
  simp only [Update.conclude, hpush, if_true] at hdeliver
  rw [hdeliver] at hpushes
  have hfollows := Follows.of_exec hfirst
  have hoffers : g''.OffersOnly config.changelog.path content :=
    ⟨hfollows.disk.isRooted hroot, exists_read_of_attempt hfirst,
      hfollows.remoteFiles.trans hremote⟩
  have hp : (Job.ofConfig config event options e).path = config.changelog.path := rfl
  have hsettles := settles_pushes hp hpushes hoffers rfl
  rw [failingPushes_attempt hfirst] at hsettles
  exact hsettles.after ⟨_, rfl, adds_attempt hfirst⟩

/-- Two rejections and two retries: two resets, three commits and a push. -/
theorem run_settles_contested :
    ∃ (o : Outcome) (g' : InMemory),
      { contested with failingPushes := 2 }.run { push := { retries := 2 } }
        (.ofDescription "Ours" "main" none) {} ⟨2024, 1, 1⟩ = (.ok o, g') ∧
      o.pushed = true ∧
      Logs (.ofConfig { push := { retries := 2 } } (.ofDescription "Ours" "main" none) {} .ours)
        { contested with failingPushes := 2 } g' 2 3 1 := by
  have hroot : { contested with failingPushes := 2 : InMemory }.disk.IsRooted := by
    intro l hl
    obtain rfl := List.prefix_nil.1 hl
    rfl
  have hentry : entryOf { push := { retries := 2 } } (.ofDescription "Ours" "main" none) {}
      ⟨2024, 1, 1⟩ = .ok (.ok .ours) := by decide +kernel
  have hcommitted : ((firstAttempt { push := { retries := 2 } }
      (.ofDescription "Ours" "main" none) {} .ours).exec (handle ⟨"CHANGELOG.md"⟩)
        { contested with failingPushes := 2 }).1.toOption.map (·.commit?.isSome) = some true := by
    decide +kernel
  obtain ⟨first, g₁, hfirst⟩ : ∃ first g₁, (firstAttempt { push := { retries := 2 } }
      (.ofDescription "Ours" "main" none) {} .ours).exec (handle ⟨"CHANGELOG.md"⟩)
        { contested with failingPushes := 2 } = (first, g₁) := ⟨_, _, (Prod.eta _).symm⟩
  obtain ⟨r, g', hrun⟩ : ∃ r g', { contested with failingPushes := 2 }.run
      { push := { retries := 2 } } (.ofDescription "Ours" "main" none) {} ⟨2024, 1, 1⟩ =
        (r, g') := ⟨_, _, (Prod.eta _).symm⟩
  rw [hfirst] at hcommitted
  cases first with
  | error err => cases hcommitted
  | ok attempt =>
    have hsettles := run_settles hroot rfl rfl hentry hfirst (Option.some.inj hcommitted) hrun
    obtain ⟨o, rfl, hpushed, hlogs⟩ := hsettles.pushed (.inr ⟨Nat.le_refl 2, by decide +kernel⟩)
    exact ⟨o, g', hrun, hpushed, hlogs⟩

end MergeNotes.Git.InMemory
