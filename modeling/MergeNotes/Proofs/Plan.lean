import Mathlib.Tactic.Common
import MergeNotes.Update

namespace MergeNotes.Update

namespace Plan

variable {α β σ : Type} {handle : (c : Call) → σ → Except Failure c.Reply × σ}

def bind (f : α → Plan β) : Plan α → Plan β
  | .done (.ok a) => f a
  | .done (.error e) => .done (.error e)
  | .call c next => .call c fun r => (next r).bind f

theorem ask_bind (c : Call) (next : c.Reply → Plan α) (f : α → Plan β) :
    (ask c next).bind f = ask c fun r => (next r).bind f := by
  unfold ask
  rw [bind]
  congr 1
  funext r
  cases r <;> rfl

theorem exec_ask (c : Call) (next : c.Reply → Plan α) (s : σ) :
    (ask c next).exec handle s =
      match handle c s with
      | (.ok r, s) => (next r).exec handle s
      | (.error e, s) => (.error e, s) := by
  rw [ask, exec]
  rcases handle c s with ⟨_ | _, s'⟩ <;> rfl

theorem exec_bind (p : Plan α) (f : α → Plan β) (s : σ) :
    (p.bind f).exec handle s =
      match p.exec handle s with
      | (.ok a, s) => (f a).exec handle s
      | (.error e, s) => (.error e, s) := by
  induction p generalizing s with
  | done r => cases r <;> rfl
  | call c next ih => exact ih _ _

/-- What every call keeps and what adds up over calls holds of a whole run. -/
theorem exec_rel {R : σ → σ → Prop} (refl : ∀ s, R s s)
    (trans : ∀ s s' s'', R s s' → R s' s'' → R s s'') (call : ∀ c s, R s (handle c s).2)
    (p : Plan α) (s : σ) : R s (p.exec handle s).2 := by
  induction p generalizing s with
  | done r => exact refl s
  | call c next ih => exact trans _ _ _ (call c s) (ih _ _)

end Plan

namespace Job

/-- What an attempt came to: whether the entry was added, and the message and the name of the commit
if there was something to commit. -/
structure Attempt where
  appended : Bool
  commit? : Option (String × String)

def attempt (job : Job) (message : Except Failure String) (author : Author) : Plan Attempt :=
  job.record fun appended =>
  .ask (.isChanged job.path) fun changed =>
  if changed then
    match message with
    | .error e => .done (.error e)
    | .ok message =>
      .ask (.commit message job.path author) fun sha => .done (.ok ⟨appended, some (message, sha)⟩)
  else .done (.ok ⟨appended, none⟩)

theorem record_bind {α β : Type} (job : Job) (next : Bool → Plan α) (f : α → Plan β) :
    (job.record next).bind f = job.record fun b => (next b).bind f := by
  unfold record
  rw [Plan.ask_bind]
  congr 1
  funext last
  split
  · rfl
  · rw [Plan.ask_bind]

theorem attempt_bind {β : Type} (job : Job) (message : Except Failure String) (author : Author)
    (f : Attempt → Plan β) :
    (job.attempt message author).bind f =
      job.record fun appended =>
      .ask (.isChanged job.path) fun changed =>
      if changed then
        match message with
        | .error e => .done (.error e)
        | .ok message =>
          .ask (.commit message job.path author) fun sha => f ⟨appended, some (message, sha)⟩
      else f ⟨appended, none⟩ := by
  rw [attempt, record_bind]
  congr 1
  funext appended
  rw [Plan.ask_bind]
  congr 1
  funext changed
  split_ifs
  · cases message with
    | error e => rfl
    | ok m => exact Plan.ask_bind _ _ _
  · rfl

def retry (job : Job) (message : String) (author : Author) (retries : Nat) (outcome : Outcome) :
    Plan Outcome :=
  .ask (.reset job.remote job.branch job.token) fun _ =>
  (job.attempt (.ok message) author).bind fun attempt =>
  match attempt.commit? with
  | some (_, sha) =>
    job.push message author retries
      { outcome with appended := attempt.appended, commitSha := some sha }
  | none => .done (.ok { outcome with
      appended := attempt.appended
      committed := false
      commitSha := none
      skippedReason := some Reason.alreadyOnRemote.message })

theorem push_eq (job : Job) (message : String) (author : Author) (retries : Nat)
    (outcome : Outcome) :
    job.push message author retries outcome =
      .call (.push job.remote job.branch job.token) fun
        | .ok _ => .done (.ok { outcome with pushed := true })
        | .error e =>
          match retries with
          | 0 => .done (.error e)
          | retries + 1 => job.retry message author retries outcome := by
  rw [push]
  congr 1
  funext r
  cases r with
  | ok _ => rfl
  | error e =>
    cases retries with
    | zero => rfl
    | succ n => simp only [retry, attempt_bind]

/-- How the pushes of a run go: what they start with and what they come to. -/
inductive Pushes {σ : Type} (handle : (c : Call) → σ → Except Failure c.Reply × σ) (job : Job)
    (message : String) (author : Author) :
    Nat → Outcome → σ → Except Failure Outcome → σ → Prop
  | accepted {n o s s'} (push : handle (.push job.remote job.branch job.token) s = (.ok (), s')) :
      Pushes handle job message author n o s (.ok { o with pushed := true }) s'
  | refused {o s s' e} (push : handle (.push job.remote job.branch job.token) s = (.error e, s')) :
      Pushes handle job message author 0 o s (.error e) s'
  | unreset {n o s s₁ s' e e'}
      (push : handle (.push job.remote job.branch job.token) s = (.error e, s₁))
      (reset : handle (.reset job.remote job.branch job.token) s₁ = (.error e', s')) :
      Pushes handle job message author (n + 1) o s (.error e') s'
  | failed {n o s s₁ s₂ s' e e'}
      (push : handle (.push job.remote job.branch job.token) s = (.error e, s₁))
      (reset : handle (.reset job.remote job.branch job.token) s₁ = (.ok (), s₂))
      (attempt : (job.attempt (.ok message) author).exec handle s₂ = (.error e', s')) :
      Pushes handle job message author (n + 1) o s (.error e') s'
  | present {n o s s₁ s₂ s' e appended}
      (push : handle (.push job.remote job.branch job.token) s = (.error e, s₁))
      (reset : handle (.reset job.remote job.branch job.token) s₁ = (.ok (), s₂))
      (attempt : (job.attempt (.ok message) author).exec handle s₂ = (.ok ⟨appended, none⟩, s')) :
      Pushes handle job message author (n + 1) o s
        (.ok { o with
          appended
          committed := false
          commitSha := none
          skippedReason := some Reason.alreadyOnRemote.message }) s'
  | again {n o s s₁ s₂ s₃ s' e appended m sha r}
      (push : handle (.push job.remote job.branch job.token) s = (.error e, s₁))
      (reset : handle (.reset job.remote job.branch job.token) s₁ = (.ok (), s₂))
      (attempt : (job.attempt (.ok message) author).exec handle s₂ =
        (.ok ⟨appended, some (m, sha)⟩, s₃))
      (rest : Pushes handle job message author n { o with appended, commitSha := some sha } s₃ r
        s') :
      Pushes handle job message author (n + 1) o s r s'

theorem pushes_exec {σ : Type} (handle : (c : Call) → σ → Except Failure c.Reply × σ) (job : Job)
    (message : String) (author : Author) (n : Nat) (o : Outcome) (s : σ) :
    Pushes handle job message author n o s ((job.push message author n o).exec handle s).1
      ((job.push message author n o).exec handle s).2 := by
  induction n generalizing o s with
  | zero =>
    rw [push_eq, Plan.exec]
    rcases hpush : handle (.push job.remote job.branch job.token) s with ⟨_ | _, s₁⟩
    · exact .refused hpush
    · exact .accepted hpush
  | succ n ih =>
    rw [push_eq, Plan.exec]
    rcases hpush : handle (.push job.remote job.branch job.token) s with ⟨_ | _, s₁⟩
    · simp only [retry, Plan.exec_ask, Plan.exec_bind]
      rcases hreset : handle (.reset job.remote job.branch job.token) s₁ with ⟨_ | _, s₂⟩
      · exact .unreset hpush hreset
      dsimp only
      rcases hattempt : (job.attempt (.ok message) author).exec handle s₂ with ⟨_ | a, s₃⟩
      · exact .failed hpush hreset hattempt
      obtain ⟨appended, _ | ⟨m, sha⟩⟩ := a
      · exact .present hpush hreset hattempt
      · exact .again hpush hreset hattempt (ih _ _)
    · exact .accepted hpush

theorem Pushes.exec_eq {σ : Type} {handle : (c : Call) → σ → Except Failure c.Reply × σ}
    {job : Job} {message : String} {author : Author} {n : Nat} {o : Outcome} {s s' : σ}
    {r : Except Failure Outcome} (h : Pushes handle job message author n o s r s') :
    (job.push message author n o).exec handle s = (r, s') := by
  induction h with
  | accepted push => rw [push_eq, Plan.exec, push]; rfl
  | refused push => rw [push_eq, Plan.exec, push]; rfl
  | unreset push reset =>
    rw [push_eq, Plan.exec, push]
    simp only [retry, Plan.exec_ask, reset]
  | failed push reset attempt =>
    rw [push_eq, Plan.exec, push]
    simp only [retry, Plan.exec_ask, reset, Plan.exec_bind, attempt]
  | present push reset attempt =>
    rw [push_eq, Plan.exec, push]
    simp only [retry, Plan.exec_ask, reset, Plan.exec_bind, attempt, Plan.exec]
  | again push reset attempt rest ih =>
    rw [push_eq, Plan.exec, push]
    simp only [retry, Plan.exec_ask, reset, Plan.exec_bind, attempt, ih]

end Job

open Job (Attempt)

def firstAttempt (config : Config) (event : Event) (options : Options) (entry : Entry) :
    Plan Attempt :=
  (Job.ofConfig config event options entry).attempt (Render.message config.commit.message event)
    (authorOf config.commit)

def committed (event : Event) (entry : Entry) (appended : Bool) (sha : String) : Outcome where
  appended := appended
  entry := some entry.text
  committed := true
  commitSha := some sha
  branch := some event.targetBranch

def unchanged (event : Event) (entry : Entry) (appended : Bool) (reason : Reason) : Outcome where
  appended := appended
  entry := some entry.text
  branch := some event.targetBranch
  skippedReason := some reason.message

def conclude (config : Config) (event : Event) (options : Options) (entry : Entry)
    (attempt : Attempt) : Plan Outcome :=
  let job := Job.ofConfig config event options entry
  match attempt.commit? with
  | some (message, sha) =>
    if options.push then
      job.push message (authorOf config.commit) config.push.retries
        (committed event entry attempt.appended sha)
    else .done (.ok (committed event entry attempt.appended sha))
  | none =>
    .ask (.ahead job.remote job.branch) fun count =>
    .done (.ok (unchanged event entry attempt.appended (job.unchangedReason count)))

theorem deliver_eq (config : Config) (event : Event) (options : Options) (entry : Entry) :
    deliver config event options entry =
      (firstAttempt config event options entry).bind (conclude config event options entry) := by
  rw [firstAttempt, Job.attempt_bind]
  rfl

/-- How a run with an entry goes: what it starts with and what it comes to. -/
inductive Delivers {σ : Type} (handle : (c : Call) → σ → Except Failure c.Reply × σ)
    (config : Config) (event : Event) (options : Options) (entry : Entry) :
    σ → Except Failure Outcome → σ → Prop
  | failed {s s' e}
      (attempt : (firstAttempt config event options entry).exec handle s = (.error e, s')) :
      Delivers handle config event options entry s (.error e) s'
  | unchanged {s s₁ s' appended r}
      (attempt : (firstAttempt config event options entry).exec handle s =
        (.ok ⟨appended, none⟩, s₁))
      (ahead : handle (.ahead config.push.remote event.targetBranch) s₁ = (r, s')) :
      Delivers handle config event options entry s
        (r.map fun count => Update.unchanged event entry appended
          ((Job.ofConfig config event options entry).unchangedReason count)) s'
  | kept {s s' appended m sha} (unpushed : options.push = false)
      (attempt : (firstAttempt config event options entry).exec handle s =
        (.ok ⟨appended, some (m, sha)⟩, s')) :
      Delivers handle config event options entry s (.ok (committed event entry appended sha)) s'
  | pushed {s s₁ s' appended m sha r} (push : options.push = true)
      (attempt : (firstAttempt config event options entry).exec handle s =
        (.ok ⟨appended, some (m, sha)⟩, s₁))
      (pushes : Job.Pushes handle (Job.ofConfig config event options entry) m
        (authorOf config.commit) config.push.retries (committed event entry appended sha) s₁ r s') :
      Delivers handle config event options entry s r s'

theorem delivers_of_exec {σ : Type} {handle : (c : Call) → σ → Except Failure c.Reply × σ}
    {config : Config} {event : Event} {options : Options} {entry : Entry} {s s' : σ}
    {r : Except Failure Outcome}
    (h : (deliver config event options entry).exec handle s = (r, s')) :
    Delivers handle config event options entry s r s' := by
  rw [deliver_eq, Plan.exec_bind] at h
  rcases hattempt : (firstAttempt config event options entry).exec handle s with
    ⟨e | ⟨appended, _ | ⟨m, sha⟩⟩, s₁⟩
  · rw [hattempt] at h
    cases h
    exact .failed hattempt
  · rw [hattempt] at h
    simp only [conclude, Plan.exec_ask] at h
    -- both replies are the one constructor
    have hunchanged := Delivers.unchanged hattempt (Prod.eta _).symm
    split at h
    all_goals
      rename_i hahead
      cases h
      rw [show handle (.ahead config.push.remote event.targetBranch) s₁ = _ from hahead]
        at hunchanged
      exact hunchanged
  · rw [hattempt] at h
    simp only [conclude] at h
    split_ifs at h with hpush
    · refine .pushed hpush hattempt ?_
      have hpushes := Job.pushes_exec handle (Job.ofConfig config event options entry) m
        (authorOf config.commit) config.push.retries (committed event entry appended sha) s₁
      rwa [h] at hpushes
    · cases h
      exact .kept (by simpa using hpush) hattempt

/-- How a run goes: it fails for the text of its entry, or is skipped, or goes on with its entry;
only then is anything asked of the changelog or the repository. -/
inductive Runs {σ : Type} (handle : (c : Call) → σ → Except Failure c.Reply × σ) (config : Config)
    (event : Event) (options : Options) (today : Date) : σ → Except Failure Outcome → σ → Prop
  | failed {s err} (entry : entryOf config event options today = .error err) :
      Runs handle config event options today s (.error err) s
  | skipped {s reason} (entry : entryOf config event options today = .ok (.error reason)) :
      Runs handle config event options today s (.ok (.skipped reason)) s
  | delivered {s s' e r} (entry : entryOf config event options today = .ok (.ok e))
      (delivers : Delivers handle config event options e s r s') :
      Runs handle config event options today s r s'

theorem runs_of_exec {σ : Type} {handle : (c : Call) → σ → Except Failure c.Reply × σ}
    {config : Config} {event : Event} {options : Options} {today : Date} {s s' : σ}
    {r : Except Failure Outcome}
    (h : (plan config event options today).exec handle s = (r, s')) :
    Runs handle config event options today s r s' := by
  rw [plan] at h
  cases hentry : entryOf config event options today with
  | error err =>
    rw [hentry] at h
    cases h
    exact .failed hentry
  | ok found =>
    rw [hentry] at h
    cases found with
    | error reason =>
      cases h
      exact .skipped hentry
    | ok e => exact .delivered hentry (delivers_of_exec h)

theorem message_ne_git {source command details : String} {event : Event} {err : Failure}
    (h : Render.message source event = .error err) : err ≠ .git command details := by
  rw [Render.message] at h
  cases hm : Render.message? source event with
  | error e =>
    rw [hm] at h
    cases h
    nofun
  | ok m =>
    rw [hm] at h
    cases h

theorem entryOf_ne_git {config : Config} {event : Event} {options : Options} {today : Date}
    {command details : String} {err : Failure}
    (h : entryOf config event options today = .error err) : err ≠ .git command details := by
  unfold entryOf at h
  split at h
  · cases h
  split at h
  · cases h
  rename_i text _
  rw [Render.entryTemplate] at h
  cases ht : Template.parse config.entry.template with
  | error e =>
    rw [ht] at h
    cases h
    nofun
  | ok template =>
    rw [ht] at h
    simp only [Except.mapError, bind, Except.bind, Render.entry] at h
    cases hr : template.render (Render.entryBindings text event today) with
    | error e =>
      rw [hr] at h
      cases h
      nofun
    | ok line =>
      rw [hr] at h
      cases hl : Entry.ofText? line <;> simp [hl, pure, Except.pure] at h

/-- Having no entry is never put down to the remote. -/
theorem entryOf_reason_ne {config : Config} {event : Event} {options : Options} {today : Date}
    {reason : Reason} (h : entryOf config event options today = .ok (.error reason)) :
    reason.message ≠ Reason.alreadyOnRemote.message := by
  unfold entryOf at h
  split at h
  · cases h
    decide
  split at h
  · cases h
    decide
  simp only [bind, Except.bind] at h
  split at h
  · cases h
  split at h
  · cases h
  split at h
  · cases h
    decide
  · cases h

theorem Reason.exists_message_unchangedAhead (count : Nat) (remote branch : String) :
    ∃ s, (Reason.unchangedAhead count remote branch).message =
      "Changelog unchanged; HEAD is " ++ s := by
  change ∃ s, "Changelog unchanged; HEAD is " ++ toString count ++ " commit(s) ahead of " ++
    remote ++ "/" ++ branch = "Changelog unchanged; HEAD is " ++ s
  simp only [String.append_assoc]
  exact ⟨_, rfl⟩

/-- A document that did not change is never put down to the remote. -/
theorem unchangedReason_message_ne (job : Job) (count : Option Nat) :
    (job.unchangedReason count).message ≠ Reason.alreadyOnRemote.message := by
  unfold Job.unchangedReason
  split
  · rename_i n
    obtain ⟨s, hs⟩ := Reason.exists_message_unchangedAhead (n + 1) job.remote job.branch
    have hleft : "Changelog unchanged; HEAD is ".toList.head? = some 'C' := by decide +kernel
    have hright : Reason.alreadyOnRemote.message.toList.head? = some 'E' := by decide +kernel
    intro h
    rw [← h, hs, String.toList_append, List.head?_append, hleft, Option.some_or] at hright
    exact absurd hright (by decide)
  · decide

end MergeNotes.Update
