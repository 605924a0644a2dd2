import MergeNotes.Git.Checkout
import MergeNotes.Load

namespace MergeNotes

abbrev Environment := List (String × String)

inductive Request.Source where
  | eventFile (path : Path)
  /-- A description by itself. Without a branch it counts for the one that is checked out. -/
  | description (text : String) (branch : Option String) (number : Option UInt64)

structure Request where
  repository : Path
  config : Option Path := none
  source : Request.Source
  push : Bool := true
  rule : Option Rule := none

namespace Request

def branch (h : Git.Host) (repository : Path) : Option String → Except Failure String
  | none => h.currentBranch repository
  | some name =>
    if Text.isBlank name then .error (.refused .branchEmpty) else .ok (Text.trim name)

def event (r : Request) (h : Git.Host) : Except Failure Event :=
  match r.source with
  | .eventFile path => h.disk.loadEvent path
  | .description text name number => do
    return Event.ofDescription text (← branch h r.repository name) number

/-- The token for pushes; a blank one is none. -/
def token (environment : Environment) (config : Config) : Option String :=
  (environment.lookup config.push.tokenEnv).filter (!Text.isBlank ·)

def options (r : Request) (environment : Environment) (config : Config) : Update.Options where
  push := r.push
  token := token environment config
  rule := r.rule

def run (r : Request) (environment : Environment) (today : Date) (h : Git.Host) :
    Except Failure Update.Outcome × Git.Host :=
  match h.disk.loadConfig r.repository r.config with
  | .error e => (.error e, h)
  | .ok config =>
    match r.event h with
    | .error e => (.error e, h)
    | .ok event => h.run r.repository config event (r.options environment config) today

end Request

def Disk.extract (d : Disk) (repository : Path) (config : Option Path) (rule : Option Rule)
    (description : String) : Except Failure (Option String) := do
  return (← d.loadConfig repository config).extract rule description

end MergeNotes
