import Mathlib.Data.List.DropRight
import MergeNotes.Proofs.Recording

namespace MergeNotes.Update

variable {σ : Type} {handle : (c : Call) → σ → Except Failure c.Reply × σ} {s s' : σ}
  {config : Config} {event : Event} {options : Options} {entry : Entry} {o : Outcome}

/-- The parts of an outcome agree with each other and with whether it was to be pushed. -/
structure Outcome.Coherent (push : Bool) (o : Outcome) : Prop where
  committed_iff_commitSha : o.committed = true ↔ o.commitSha.isSome
  committed_iff_skippedReason : o.committed = true ↔ o.skippedReason = none
  pushed_iff : o.pushed = true ↔ o.committed = true ∧ push = true
  entry_iff_branch : o.entry.isSome ↔ o.branch.isSome
  entry_of_appended : o.appended = true → o.entry.isSome

theorem coherent_skipped (push : Bool) (reason : Reason) :
    (Outcome.skipped reason).Coherent push := by
  constructor <;> simp [Outcome.skipped]

theorem coherent_unchanged (push : Bool) (event : Event) (entry : Entry) (appended : Bool)
    (reason : Reason) : (unchanged event entry appended reason).Coherent push := by
  constructor <;> simp [unchanged]

theorem coherent_committed (event : Event) (entry : Entry) (appended : Bool) (sha : String) :
    (committed event entry appended sha).Coherent false := by
  constructor <;> simp [committed]

theorem coherent_pushed (event : Event) (entry : Entry) (appended : Bool) (sha : String) :
    { committed event entry appended sha with pushed := true : Outcome }.Coherent true := by
  constructor <;> simp [committed]

/-- The pushes of a run come to one that is accepted, or to a remote that has the entry. -/
theorem Job.Pushes.outcome {job : Job} {message : String} {author : Author} {n : Nat}
    {appended : Bool} {sha : String}
    (h : Job.Pushes handle job message author n (committed event entry appended sha) s (.ok o) s') :
    (∃ appended sha, o = { committed event entry appended sha with pushed := true }) ∨
      ∃ appended, o = unchanged event entry appended .alreadyOnRemote := by
  generalize hstart : committed event entry appended sha = start at h
  generalize hr : Except.ok o = r at h
  induction h generalizing appended sha with
  | accepted push =>
    subst hstart
    cases hr
    exact .inl ⟨appended, sha, rfl⟩
  | refused | unreset | failed => cases hr
  | @present _ _ _ _ _ _ _ added push reset attempt =>
    subst hstart
    cases hr
    exact .inr ⟨added, rfl⟩
  | @again _ _ _ _ _ _ _ _ added m sha' r push reset attempt rest ih =>
    subst hstart
    exact ih rfl hr

theorem coherent_deliver (h : Delivers handle config event options entry s (.ok o) s') :
    o.Coherent options.push := by
  generalize hr : Except.ok o = r at h
  cases h with
  | failed attempt => cases hr
  | @unchanged _ _ appended reply attempt ahead =>
    cases reply with
    | error failure => cases hr
    | ok count =>
      cases hr
      exact coherent_unchanged _ event entry appended _
  | kept unpushed attempt =>
    cases hr
    rw [unpushed]
    exact coherent_committed event entry _ _
  | pushed push attempt pushes =>
    subst hr
    rw [push]
    obtain ⟨appended, sha, rfl⟩ | ⟨appended, rfl⟩ := pushes.outcome
    · exact coherent_pushed event entry appended sha
    · exact coherent_unchanged true event entry appended _

/-- Whatever answers the calls of a run, what it reports in the end is coherent. -/
theorem coherent_plan {today : Date}
    (h : (plan config event options today).exec handle s = (.ok o, s')) :
    o.Coherent options.push := by
  cases runs_of_exec h with
  | skipped entry => exact coherent_skipped _ _
  | delivered entry delivers => exact coherent_deliver delivers

end MergeNotes.Update

namespace MergeNotes

theorem Text.isBlank_trim {s : String} (h : Text.trim s ≠ "") :
    Text.isBlank (Text.trim s) = false := by
  have hne : List.rdropWhile Chars.isBlank (Chars.trimStart s.toList) ≠ [] := by
    intro hnil
    exact h (congrArg String.ofList hnil)
  have hlast := List.rdropWhile_last_not Chars.isBlank _ hne
  rw [Text.isBlank, Text.trim, String.toList_ofList, Chars.allBlank, List.all_eq_false]
  exact ⟨_, List.getLast_mem hne, hlast⟩

/-- The message of a commit is what its template prints, trimmed, and is not blank. -/
theorem Render.message_eq_ok {source m : String} {event : Event}
    (h : Render.message source event = .ok m) :
    (∃ t printed, Template.parse source = .ok t ∧
      t.render (Render.messageBindings event) = .ok printed ∧ m = Text.trim printed) ∧
      Text.isBlank m = false := by
  have hm : Render.message? source event = .ok m := by
    rw [Render.message] at h
    cases hm : Render.message? source event with
    | error e =>
      rw [hm] at h
      cases h
    | ok m' =>
      rw [hm] at h
      cases h
      rfl
  obtain ⟨t, ht, hm⟩ := bind_eq_ok.1 hm
  obtain ⟨printed, hprinted, hm⟩ := bind_eq_ok.1 hm
  dsimp only at hm
  split_ifs at hm with hempty
  cases hm
  exact ⟨⟨t, printed, ht, hprinted, rfl⟩, Text.isBlank_trim (by simpa using hempty)⟩

end MergeNotes

namespace MergeNotes.Git.InMemory

open Update (Job Options Plan Author Outcome Delivers authorOf entryOf plan)

variable {g g' g'' : InMemory} {p : Path} {config : Config} {event : Event} {options : Options}
  {entry : Entry}

structure Adds (g g' : InMemory) (commits : List Commit)
    (pushes : List (String × String × Option String)) (resets : List (String × String)) : Prop where
  commits : g'.commits = g.commits ++ commits
  pushes : g'.pushes = g.pushes ++ pushes
  resets : g'.resets = g.resets ++ resets

theorem Adds.trans {cs cs' : List Commit} {ps ps' : List (String × String × Option String)}
    {rs rs' : List (String × String)} (h : Adds g g' cs ps rs) (h' : Adds g' g'' cs' ps' rs') :
    Adds g g'' (cs ++ cs') (ps ++ ps') (rs ++ rs') where
  commits := by rw [h'.commits, h.commits, List.append_assoc]
  pushes := by rw [h'.pushes, h.pushes, List.append_assoc]
  resets := by rw [h'.resets, h.resets, List.append_assoc]

theorem Adds.of_eq (hcommits : g'.commits = g.commits) (hpushes : g'.pushes = g.pushes)
    (hresets : g'.resets = g.resets) : Adds g g' [] [] [] := by
  constructor <;> simpa

theorem checkOut_eq (g : InMemory) (files : List (Path × String)) :
    ∃ disk snapshots, (g.checkOut files).2 = { g with disk := disk, snapshots := snapshots } := by
  induction files generalizing g with
  | nil => exact ⟨g.disk, g.snapshots, rfl⟩
  | cons x files ih =>
    unfold checkOut
    split
    · exact ⟨g.disk, g.snapshots, rfl⟩
    · rename_i d hd
      obtain ⟨disk, snapshots, heq⟩ := ih (markCommitted { g with disk := d } x.1)
      exact ⟨disk, snapshots, heq⟩

theorem reset_eq {remote branch : String} {r : Except Failure Unit}
    (h : g.reset remote branch = (r, g')) :
    ∃ disk snapshots, g' =
      { g with resets := g.resets ++ [(remote, branch)], disk := disk, snapshots := snapshots } := by
  obtain ⟨disk, snapshots, heq⟩ :=
    checkOut_eq { g with resets := g.resets ++ [(remote, branch)] } g.remoteFiles
  rw [InMemory.reset] at h
  rw [h] at heq
  exact ⟨disk, snapshots, heq⟩

theorem adds_reset {remote branch : String} {r : Except Failure Unit}
    (h : g.reset remote branch = (r, g')) : Adds g g' [] [] [(remote, branch)] := by
  obtain ⟨disk, snapshots, rfl⟩ := reset_eq h
  exact ⟨(List.append_nil _).symm, (List.append_nil _).symm, rfl⟩

theorem adds_push {remote branch : String} {token : Option String} {r : Except Failure Unit}
    (h : g.push remote branch token = (r, g')) :
    Adds g g' [] (if r.isOk then [(remote, branch, token)] else []) [] := by
  unfold InMemory.push at h
  split at h
  · cases h
    exact .of_eq rfl rfl rfl
  · cases h
    exact ⟨(List.append_nil _).symm, rfl, (List.append_nil _).symm⟩

def commitsOf (job : Job) (author : Author) : Except Failure Job.Attempt → List Commit
  | .ok ⟨_, some (message, sha)⟩ => [⟨sha, message, [job.path], author⟩]
  | _ => []

theorem adds_attempt {job : Job} {message : Except Failure String} {author : Author}
    {r : Except Failure Job.Attempt}
    (h : (job.attempt message author).exec (handle p) g = (r, g')) :
    Adds g g' (commitsOf job author r) [] [] := by
  cases attempted_of_exec h with
  | committed => exact ⟨rfl, (List.append_nil _).symm, (List.append_nil _).symm⟩
  | unrecorded | noMessage | unchanged => exact .of_eq rfl rfl rfl

theorem message_of_attempt {job : Job} {message : Except Failure String} {author : Author}
    {appended : Bool} {m sha : String}
    (h : (job.attempt message author).exec (handle p) g = (.ok ⟨appended, some (m, sha)⟩, g')) :
    message = .ok m := by
  cases attempted_of_exec h with
  | committed record changed printed => exact printed

def pushesOf (job : Job) (o : Outcome) : List (String × String × Option String) :=
  if o.pushed then [(job.remote, job.branch, job.token)] else []

/-- Up to a push that is accepted, each retry logs one reset and at most one commit, and it is the
last commit that the outcome names. -/
theorem adds_pushes {job : Job} {message : String} {author : Author} {n : Nat} {o o' : Outcome}
    (h : Job.Pushes (handle p) job message author n o g (.ok o') g') (ho : o.pushed = false) :
    ∃ commits k, k ≤ n ∧
      Adds g g' commits (pushesOf job o') (List.replicate k (job.remote, job.branch)) ∧
      (∀ c ∈ commits, c = ⟨c.sha, message, [job.path], author⟩) ∧
      (o'.committed = true → (commits.getLast?.map (·.sha)).or o.commitSha = o'.commitSha) := by
  generalize hr : Except.ok o' = r at h
  induction h with
  | accepted push =>
    cases hr
    exact ⟨[], 0, Nat.zero_le _, adds_push push, by simp, fun _ => rfl⟩
  | refused | unreset | failed => cases hr
  | @present n o s s₁ s₂ s' failure appended push reset attempt =>
    cases hr
    have hretry : Adds s s' [] [] [(job.remote, job.branch)] :=
      (adds_push push).trans ((adds_reset reset).trans (adds_attempt attempt))
    refine ⟨[], 1, Nat.le_add_left 1 _, ?_, by simp, by simp⟩
    simpa [pushesOf, ho] using hretry
  | @again n o s s₁ s₂ s₃ s' failure appended m sha r push reset attempt rest ih =>
    -- the commit of this retry comes first, so the last one is that of the rest if it has any
    obtain ⟨commits, k, hk, hadds, hcommits, hsha⟩ := ih ho hr
    obtain rfl : message = m := Except.ok.inj (message_of_attempt attempt)
    have hretry : Adds s s₃ [⟨sha, message, [job.path], author⟩] [] [(job.remote, job.branch)] :=
      (adds_push push).trans ((adds_reset reset).trans (adds_attempt attempt))
    refine ⟨⟨sha, message, [job.path], author⟩ :: commits, k + 1, Nat.succ_le_succ hk, ?_, ?_, ?_⟩
    · exact hretry.trans hadds
    · intro c hc
      rcases List.mem_cons.1 hc with rfl | hc
      · rfl
      · exact hcommits c hc
    · intro hcommitted
      rw [← hsha hcommitted, List.getLast?_cons]
      cases commits.getLast? <;> rfl

/-- A commit of the document alone, by the configured author and with the message that the
configured template prints. -/
structure Commit.IsFor (config : Config) (event : Event) (c : Commit) : Prop where
  files : c.files = [config.changelog.path]
  author : c.author = ⟨config.commit.authorName, config.commit.authorEmail⟩
  message : ∃ t printed, Template.parse config.commit.message = .ok t ∧
    t.render (Render.messageBindings event) = .ok printed ∧ c.message = Text.trim printed
  notBlank : Text.isBlank c.message = false

theorem Commit.isFor_of_message {message sha : String}
    (h : Render.message config.commit.message event = .ok message) :
    Commit.IsFor config event ⟨sha, message, [config.changelog.path], authorOf config.commit⟩ where
  files := rfl
  author := rfl
  message := (Render.message_eq_ok h).1
  notBlank := (Render.message_eq_ok h).2

theorem adds_deliver {o : Outcome}
    (h : Delivers (handle p) config event options entry g (.ok o) g') :
    ∃ commits k, k ≤ config.push.retries ∧
      Adds g g' commits (pushesOf (Job.ofConfig config event options entry) o)
        (List.replicate k (config.push.remote, event.targetBranch)) ∧
      (∀ c ∈ commits, c.IsFor config event) ∧
      (o.committed = true → commits.getLast?.map (·.sha) = o.commitSha) := by
  generalize hr : Except.ok o = r at h
  cases h with
  | failed attempt => cases hr
  | unchanged attempt ahead =>
    rw [handle] at ahead
    cases ahead
    cases hr
    exact ⟨[], 0, Nat.zero_le _, adds_attempt attempt, by simp, by simp [Update.unchanged]⟩
  | kept unpushed attempt =>
    cases hr
    have hmessage := message_of_attempt attempt
    refine ⟨_, 0, Nat.zero_le _, adds_attempt attempt, ?_, fun _ => rfl⟩
    intro c hc
    rw [List.mem_singleton.1 hc]
    exact Commit.isFor_of_message hmessage
  | pushed push attempt pushes =>
    subst hr
    have hmessage := message_of_attempt attempt
    obtain ⟨commits, k, hk, hadds, hcommits, hsha⟩ := adds_pushes pushes rfl
    refine ⟨_, k, hk, (adds_attempt attempt).trans hadds, ?_, ?_⟩
    · intro c hc
      rcases List.mem_append.1 hc with hc | hc
      · rw [List.mem_singleton.1 hc]
        exact Commit.isFor_of_message hmessage
      · rw [hcommits c hc]
        exact Commit.isFor_of_message hmessage
    · intro hcommitted
      rw [← hsha hcommitted, List.getLast?_append]
      cases commits.getLast? <;> rfl

/-- What a run reports is coherent and agrees with what it logged. A commit that it names is the
last one, there is a push exactly if it reports one, and no more resets than it may retry; all are
about the configured document, author and remote. -/
theorem run_accounts {today : Date} {o : Outcome}
    (hrun : g.run config event options today = (.ok o, g')) :
    o.Coherent options.push ∧
      ∃ commits k, k ≤ config.push.retries ∧
        Adds g g' commits
          (if o.pushed then [(config.push.remote, event.targetBranch, options.token)] else [])
          (List.replicate k (config.push.remote, event.targetBranch)) ∧
        (∀ c ∈ commits, c.IsFor config event) ∧
        (o.committed = true → commits.getLast?.map (·.sha) = o.commitSha) := by
  rw [InMemory.run] at hrun
  refine ⟨Update.coherent_plan hrun, ?_⟩
  cases Update.runs_of_exec hrun with
  | skipped entry =>
    exact ⟨[], 0, Nat.zero_le _, .of_eq rfl rfl rfl, by simp, by simp [Outcome.skipped]⟩
  | delivered entry delivers => exact adds_deliver delivers

/-- A push that is accepted on the second try is logged once, after two commits and a reset. -/
theorem run_accounts_contested :
    ∃ (o : Outcome) (g' : InMemory) (commits : List Commit),
      contested.run { push := { retries := 1 } } (.ofDescription "Ours" "main" none) {}
        ⟨2024, 1, 1⟩ = (.ok o, g') ∧
      o.Coherent true ∧ o.commitSha = some "fake-sha-2" ∧
      Adds contested g' commits [("origin", "main", none)] [("origin", "main")] ∧
      commits.getLast?.map (·.sha) = o.commitSha ∧ commits.length = 2 ∧
      ∀ c ∈ commits, c.IsFor { push := { retries := 1 } } (.ofDescription "Ours" "main" none) := by
  have hsha : (contested.run { push := { retries := 1 } } (.ofDescription "Ours" "main" none) {}
      ⟨2024, 1, 1⟩).1.toOption.map (fun o => (o.pushed, o.commitSha)) =
        some (true, some "fake-sha-2") := by decide +kernel
  have hlogs : (contested.run { push := { retries := 1 } } (.ofDescription "Ours" "main" none) {}
      ⟨2024, 1, 1⟩).2.resets = [("origin", "main")] := by decide +kernel
  have hlength : (contested.run { push := { retries := 1 } } (.ofDescription "Ours" "main" none) {}
      ⟨2024, 1, 1⟩).2.commits.length = 2 := by decide +kernel
  obtain ⟨r, g', hrun⟩ : ∃ r g', contested.run { push := { retries := 1 } }
      (.ofDescription "Ours" "main" none) {} ⟨2024, 1, 1⟩ = (r, g') := ⟨_, _, (Prod.eta _).symm⟩
  rw [hrun] at hsha hlogs hlength
  cases r with
  | error err => cases hsha
  | ok o =>
    obtain ⟨hpushed, hsha⟩ := Prod.mk.inj (Option.some.inj hsha)
    obtain ⟨hcoherent, commits, k, hk, hadds, hcommits, hlast⟩ := run_accounts hrun
    rw [if_pos hpushed] at hadds
    have hresets : List.replicate k ("origin", "main") = [("origin", "main")] := by
      rw [← hlogs, hadds.resets]
      rfl
    have hadds : Adds contested g' commits [("origin", "main", none)]
      (List.replicate k ("origin", "main")) := hadds
    rw [hresets] at hadds
    have hcommitted : o.committed = true := (hcoherent.pushed_iff.1 hpushed).1
    rw [hadds.commits] at hlength
    exact ⟨o, g', commits, hrun, hcoherent, hsha, hadds, hlast hcommitted, hlength, hcommits⟩

end MergeNotes.Git.InMemory
