import MergeNotes.CommandLine.Command
import MergeNotes.Update.Report
import MergeNotes.Workflow

namespace MergeNotes.CommandLine

structure Session where
  host : Git.Host
  environment : Environment := []
  input : ByteArray := .empty
  today : Date

inductive Ending where
  | done
  | failed (e : Failure)
  | misused
  deriving DecidableEq, Repr

def Ending.code : Ending → Nat
  | done => 0
  | failed _ => 1
  | misused => 2

def Ending.complaint : Ending → Option String
  | done => none
  | failed e => some ("Error: " ++ e.message)
  | misused => some ("Usage: " ++ Workflow.program ++ " <COMMAND>")

structure Result where
  output : String := ""
  ending : Ending := .done
  host : Git.Host

namespace Session

def inputText (s : Session) : Except Failure String :=
  match String.fromUTF8? s.input with
  | some text => .ok text
  | none => .error (.disk .notText)

/-- A hyphen as a path. -/
def isInput (p : Path) : Bool := p.components == (Path.mk "-").components

def descriptionText (s : Session) (p : Path) : Except Failure String :=
  if isInput p then s.inputText else (s.host.disk.readText p).mapError .disk

/-- A description goes before an event. -/
def source (s : Session) (call : UpdateCall) : Except Failure Request.Source :=
  match call.descriptionFile, call.eventFile with
  | some p, _ => do return .description (← s.descriptionText p) call.branch call.number
  | none, some p => .ok (.eventFile p)
  | none, none => .error .eventMissing

def request (s : Session) (call : UpdateCall) : Except Failure Request := do
  return {
    repository := call.repository
    config := call.config
    source := ← s.source call
    push := call.push
    rule := call.rule }

def outputVariable : String := "GITHUB_OUTPUT"

def fail (h : Git.Host) (e : Failure) : Result := { ending := .failed e, host := h }

/-- Prints an outcome, then adds it to the workflow's output. -/
def report (s : Session) (o : Update.Outcome) (h : Git.Host) : Result :=
  let output := o.text ++ "\n"
  match s.environment.lookup outputVariable with
  | none => { output, host := h }
  | some file =>
    match o.record ⟨file⟩ h.disk with
    | .ok disk => { output, host := { h with disk } }
    | .error e => { output, ending := .failed e, host := h }

def update (s : Session) (call : UpdateCall) : Result :=
  match s.request call with
  | .error e => fail s.host e
  | .ok request =>
    match request.run s.environment s.today s.host with
    | (.error e, h) => fail h e
    | (.ok outcome, h) => s.report outcome h

def extract (s : Session) (rule : Option Rule) (config : Option Path) : Result :=
  let text := do s.host.disk.extract defaultRepository config rule (← s.inputText)
  match text with
  | .error e => fail s.host e
  | .ok none => { host := s.host }
  | .ok (some text) => { output := text ++ "\n", host := s.host }

def workflow (s : Session) (output : Option Path) (runner : String) : Result :=
  match Workflow.make runner output s.host.disk with
  | (.error e, disk) => fail { s.host with disk } e
  | (.ok made, disk) =>
    let output := match made.written with
      | none => made.file.content
      | some p => "✅ Wrote " ++ p.text ++ "\n"
    { output, host := { s.host with disk } }

def perform (s : Session) : Command → Result
  | .extract rule config => s.extract rule config
  | .update call => s.update call
  | .workflow output runner => s.workflow output runner

def versionText : String := Workflow.program ++ " " ++ Workflow.version ++ "\n"

def helpText : String :=
  "Append changelog entries from merged pull request descriptions\n\nUsage: " ++
    Workflow.program ++ " <COMMAND>\n\nCommands:\n" ++
    "  extract   Print the changelog entry of a description on stdin [aliases: x]\n" ++
    "  update    Append, commit and push the entry of a merged pull request [aliases: u]\n" ++
    "  workflow  Print or write the workflow that runs an update [aliases: wf]\n"

def run (s : Session) (args : List String) : Result :=
  match read s.environment args with
  | .ok command => s.perform command
  | .error .version => { output := versionText, host := s.host }
  | .error .help => { output := helpText, host := s.host }
  | .error .misuse => { ending := .misused, host := s.host }

end Session
end MergeNotes.CommandLine
