import MergeNotes.CommandLine.Options
import MergeNotes.Request

namespace MergeNotes.CommandLine

structure UpdateCall where
  eventFile : Option Path
  /-- A file that holds a description; a hyphen stands for the input. -/
  descriptionFile : Option Path
  branch : Option String
  number : Option UInt64
  rule : Option Rule
  config : Option Path
  repository : Path
  push : Bool

inductive Command where
  | extract (rule : Option Rule) (config : Option Path)
  | update (call : UpdateCall)
  | workflow (output : Option Path) (runner : String)

inductive Verb where
  | extract
  | update
  | workflow
  deriving DecidableEq, Repr

def Verb.ofText? : String → Option Verb
  | "extract" => some extract
  | "x" => some extract
  | "update" => some update
  | "u" => some update
  | "workflow" => some workflow
  | "wf" => some workflow
  | _ => none

def ruleSwitch : Switch := { name := "rule", letter := 'r', operand := .rule }

def configSwitch : Switch := { name := "config", letter := 'c' }

def eventSwitch : Switch := { name := "event" }

def eventVariable : String := "GITHUB_EVENT_PATH"

def descriptionSwitch : Switch := { name := "description-file", letter := 'd' }

def branchSwitch : Switch := { name := "branch", letter := 'b', operand := .text }

def numberSwitch : Switch := { name := "number", letter := 'n', operand := .number }

def repositorySwitch : Switch := { name := "repo" }

def noPushSwitch : Switch := { name := "no-push", operand := .nothing }

def outputSwitch : Switch := { name := "output", letter := 'o' }

def runnerSwitch : Switch := { name := "runs-on", operand := .text }

def Verb.switches : Verb → List Switch
  | extract => [ruleSwitch, configSwitch]
  | update => [eventSwitch, descriptionSwitch, branchSwitch, numberSwitch, ruleSwitch, configSwitch,
    repositorySwitch, noPushSwitch]
  | workflow => [outputSwitch, runnerSwitch]

def defaultRepository : Path := ⟨"."⟩

def defaultRunner : String := "ubuntu-latest"

namespace Given

def path? (g : Given) (s : Switch) : Option Path := (value? g s).map Path.mk

def rule? (g : Given) : Option Rule := (value? g ruleSwitch).bind fun s => (Rule.parse s).toOption

/-- Branch and number belong to a description. -/
def isComplete (g : Given) : Bool :=
  (value? g descriptionSwitch).isSome ||
    ((value? g branchSwitch).isNone && (value? g numberSwitch).isNone)

def updateCall (g : Given) : UpdateCall where
  eventFile := path? g eventSwitch
  descriptionFile := path? g descriptionSwitch
  branch := value? g branchSwitch
  number := (value? g numberSwitch).bind number?
  rule := rule? g
  config := path? g configSwitch
  repository := (path? g repositorySwitch).getD defaultRepository
  push := (value? g noPushSwitch).isNone

def command (g : Given) : Verb → Except Stop Command
  | .extract => .ok (.extract (rule? g) (path? g configSwitch))
  | .update => if isComplete g then .ok (.update (updateCall g)) else .error .misuse
  | .workflow =>
    .ok (.workflow (path? g outputSwitch) ((value? g runnerSwitch).getD defaultRunner))

end Given

/-- Fills in what the environment gives for an option that is missing. -/
def addEnvironment (environment : Environment) (verb : Verb) (given : Given) : Except Stop Given :=
  match verb, environment.lookup eventVariable with
  | .update, some value =>
    if (given.value? eventSwitch).isSome then .ok given else add given eventSwitch value
  | _, _ => .ok given

def readCommand (environment : Environment) (verb : Verb) (args : List String) :
    Except Stop Command := do
  let given ← readOptions verb.switches [] args
  Given.command (← addEnvironment environment verb given) verb

def isHelpTopic : List String → Bool
  | [] => true
  | ["help"] => true
  | [topic] => (Verb.ofText? topic).isSome
  | _ => false

def read (environment : Environment) : List String → Except Stop Command
  | [] => .error .misuse
  | arg :: args =>
    match Verb.ofText? arg with
    | some verb => readCommand environment verb args
    | none =>
      if arg = "help" then .error (if isHelpTopic args then .help else .misuse)
      else match Argument.ofText arg with
        | .short 'V' _ => .error .version
        | .long name none => .error (if name == "version".toList then .version
          else if name == "help".toList then .help else .misuse)
        | .short 'h' _ => .error .help
        | _ => .error .misuse

end MergeNotes.CommandLine
