import MergeNotes.Config
import MergeNotes.Disk
import MergeNotes.Mismatch
import MergeNotes.Template.Value

namespace MergeNotes

/-- Input at the boundary that no configuration or file is to blame for. -/
inductive Failure.Refusal where
  | unknownRule (name : String)
  | eventFileMissing (path : Path)
  | branchEmpty
  | targetBranchEmpty
  | runnerEmpty
  deriving DecidableEq, Repr

inductive Failure where
  | disk (e : Disk.Error)
  | config (fault : Config.Fault)
  | configMissing (path : Path)
  | configMisread (m : Misread)
  | eventMisread (m : Misread)
  /-- There was neither an event nor a description. -/
  | eventMissing
  | template (name : String) (e : Template.Error)
  | git (command details : String)
  | refused (r : Failure.Refusal)
  /-- The file that takes a workflow's output did not open. -/
  | outputUnopened (e : Disk.Error)
  deriving DecidableEq, Repr

namespace Failure

def Refusal.message : Refusal → String
  | unknownRule name =>
    "Unknown extraction rule '" ++ name ++ "': expected 'summary' or 'fields'"
  | eventFileMissing path => "Event file not found: " ++ path.text
  | branchEmpty => "--branch must not be empty"
  | targetBranchEmpty => "pull request event has an empty base.ref"
  | runnerEmpty => "runs-on label must not be empty"

def message : Failure → String
  | disk e => e.message
  | config fault => "Invalid configuration: " ++ fault.message
  | configMissing path => "Config file not found: " ++ path.text
  | configMisread m => "TOML parse error: " ++ m.message
  | eventMisread m => "Failed to parse pull request event: " ++ m.message
  | eventMissing =>
    "No pull request event found. Pass --event, set GITHUB_EVENT_PATH, or use --description-file"
  | template name e => "Template error in " ++ name ++ ": " ++ e.message
  | git command details => "Git error running '" ++ command ++ "': " ++ details
  | refused r => r.message
  | outputUnopened e => "Internal error: Failed to open GITHUB_OUTPUT: " ++ e.message

inductive Kind where
  | invalidInput
  | notFound
  | other
  | disk (e : Disk.Error)
  deriving DecidableEq, Repr

def kind : Failure → Kind
  | disk e => .disk e
  | configMissing _ => .notFound
  | eventMissing => .notFound
  | git _ _ => .other
  | outputUnopened _ => .other
  | _ => .invalidInput

end Failure

def Rule.ofText (text : String) : Except Failure Rule :=
  (Rule.parse text).mapError fun name => .refused (.unknownRule name)

end MergeNotes
