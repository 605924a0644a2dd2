import MergeNotes.Config.Reader
import MergeNotes.Event.Payload
import MergeNotes.Failure

namespace MergeNotes

def Config.parse (text : String) : Except Failure Config :=
  match Config.ofText text with
  | .error m => .error (.configMisread m)
  | .ok config =>
    match config.fault? with
    | some fault => .error (.config fault)
    | none => .ok config

/-- The event of a payload, which has to name a target branch. -/
def Event.parse (text : String) : Except Failure Event :=
  match Event.ofPayload text with
  | .error m => .error (.eventMisread m)
  | .ok event =>
    if event.targetBranch.isEmpty then .error (.refused .targetBranchEmpty) else .ok event

namespace Disk

def loadConfigFile (d : Disk) (p : Path) : Except Failure Config := do
  Config.parse (← (d.readText p).mapError .disk)

/-- The configuration of a repository. A file that is asked for must be there; without one, the
file at the root of the repository counts if there is one. -/
def loadConfig (d : Disk) (repository : Path) : Option Path → Except Failure Config
  | some p => if d.isFile p then d.loadConfigFile p else .error (.configMissing p)
  | none =>
    let p := repository.join Config.fileName
    if d.isFile p then d.loadConfigFile p else .ok {}

def loadEvent (d : Disk) (p : Path) : Except Failure Event :=
  match d.readText p with
  | .error .notFound => .error (.refused (.eventFileMissing p))
  | .error e => .error (.disk e)
  | .ok text => Event.parse text

end Disk
end MergeNotes
