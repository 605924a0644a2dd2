import MergeNotes.Changelog
import MergeNotes.Render
import MergeNotes.Update.Outcome
import MergeNotes.Update.Plan

namespace MergeNotes.Update

structure Options where
  push : Bool := true
  token : Option String := none
  /-- Takes the place of the configured rule. -/
  rule : Option Rule := none

structure Job where
  entry : Entry
  path : Path
  remote : String
  branch : String
  token : Option String

namespace Job

def ofConfig (config : Config) (event : Event) (options : Options) (entry : Entry) : Job where
  entry := entry
  path := config.changelog.path
  remote := config.push.remote
  branch := event.targetBranch
  token := options.token

/-- Adds the entry unless it is the last line; whether it was added decides how to go on. -/
def record (job : Job) (next : Bool → Plan α) : Plan α :=
  .ask .lastLine fun last =>
    if Changelog.endsWith last job.entry then next false
    else .ask (.append job.entry) fun _ => next true

def unchangedReason (job : Job) : Option Nat → Reason
  | some (n + 1) => .unchangedAhead (n + 1) job.remote job.branch
  | _ => .unchanged

def push (job : Job) (message : String) (author : Author) : Nat → Outcome → Plan Outcome
  | retries, outcome =>
    .call (.push job.remote job.branch job.token) fun
      | .ok _ => .done (.ok { outcome with pushed := true })
      | .error e =>
        match retries with
        | 0 => .done (.error e)
        | retries + 1 =>
          .ask (.reset job.remote job.branch job.token) fun _ =>
          job.record fun appended =>
          .ask (.isChanged job.path) fun changed =>
          if changed then
            .ask (.commit message job.path author) fun sha =>
            push job message author retries { outcome with appended, commitSha := some sha }
          else .done (.ok { outcome with
            appended
            committed := false
            commitSha := none
            skippedReason := some Reason.alreadyOnRemote.message })

end Job

def authorOf (c : Config.Commit) : Author := ⟨c.authorName, c.authorEmail⟩

def deliver (config : Config) (event : Event) (options : Options) (entry : Entry) : Plan Outcome :=
  let job := Job.ofConfig config event options entry
  job.record fun appended =>
  let outcome : Outcome :=
    { appended, entry := some entry.text, branch := some event.targetBranch }
  .ask (.isChanged job.path) fun changed =>
  if changed then
    match Render.message config.commit.message event with
    | .error e => .done (.error e)
    | .ok message =>
      let author := authorOf config.commit
      .ask (.commit message job.path author) fun sha =>
      let outcome := { outcome with committed := true, commitSha := some sha }
      if options.push then job.push message author config.push.retries outcome
      else .done (.ok outcome)
  else
    .ask (.ahead job.remote job.branch) fun count =>
    .done (.ok { outcome with skippedReason := some (job.unchangedReason count).message })

def entryOf (config : Config) (event : Event) (options : Options) (today : Date) :
    Except Failure (Except Reason Entry) :=
  if !event.isMergedClose then .ok (.error .notMerged)
  else match config.extract options.rule event.descriptionText with
    | none => .ok (.error .noEntry)
    | some text => do
      let template ← Render.entryTemplate config.entry.template
      match ← Render.entry template text event today with
      | none => return .error .blankEntry
      | some entry => return .ok entry

/-- What a run does for an event: extract, record the entry, commit the changelog if it changed,
push the commit. A push that is rejected is tried again on the tip of the remote branch, with the
entry recorded anew. -/
def plan (config : Config) (event : Event) (options : Options) (today : Date) : Plan Outcome :=
  match entryOf config event options today with
  | .error e => .done (.error e)
  | .ok (.error reason) => .done (.ok (.skipped reason))
  | .ok (.ok entry) => deliver config event options entry

end MergeNotes.Update
