import MergeNotes.Proofs.Faithful
import MergeNotes.Proofs.Protocol

namespace MergeNotes.Git.Host

open Update (Options)

/-- An argument, by where it comes from. -/
inductive Argument where
  | fixed (text : String)
  | data (text : String)
  deriving DecidableEq, Repr

namespace Argument

def text : Argument → String
  | fixed s => s
  | data s => s

def startsWithDash (s : String) : Bool := s.toList.head? == some '-'

/-- Whether what comes next cannot be an option, given the arguments before it. -/
def isOperandNext (before : List Argument) : Bool :=
  before.getLast? == some (.fixed "-m") || before.getLast? == some (.fixed "-c") ||
    before.contains (.fixed "--")

/-- The data that can be taken for an option, given the arguments before. -/
def exposed (before : List Argument) : List Argument → List String
  | [] => []
  | .fixed s :: args => exposed (before ++ [.fixed s]) args
  | .data s :: args =>
    if startsWithDash s && !isOperandNext before then s :: exposed (before ++ [.data s]) args
    else exposed (before ++ [.data s]) args

def ofSettings (settings : List String) : List Argument :=
  settings.flatMap fun s => [.fixed "-c", .data s]

theorem exposed_ofSettings (before : List Argument) (settings : List String)
    (args : List Argument) :
    exposed before (ofSettings settings ++ args) = exposed (before ++ ofSettings settings) args := by
  induction settings generalizing before with
  | nil => simp [ofSettings]
  | cons s settings ih =>
    have hoperand : isOperandNext (before ++ [.fixed "-c"]) = true := by simp [isOperandNext]
    have hstep : exposed before (ofSettings (s :: settings) ++ args) =
        exposed (before ++ [.fixed "-c"] ++ [.data s]) (ofSettings settings ++ args) := by
      simp [ofSettings, exposed, hoperand]
    rw [hstep, ih]
    simp [ofSettings]

theorem end_notMem_ofSettings (settings : List String) : .fixed "--" ∉ ofSettings settings := by
  simp [ofSettings]

end Argument

open Argument (exposed startsWithDash ofSettings isOperandNext)

namespace Terms

def wording (t : Terms) : Command → List Argument
  | .add => [.fixed "add", .fixed "--", .data t.path]
  | .commit => [.fixed "commit", .fixed "-m", .data t.message, .fixed "--", .data t.path]
  | .push => [.fixed "push", .data t.remote, .data ("HEAD:refs/heads/" ++ t.branch)]
  | .fetch => [.fixed "fetch", .data t.remote, .data ("refs/heads/" ++ t.branch)]
  | .reset => [.fixed "reset", .fixed "--keep", .fixed "FETCH_HEAD"]

def arguments (t : Terms) (c : Command) : List Argument :=
  ofSettings (t.invocation c).settings ++ t.wording c

theorem text_arguments (t : Terms) (c : Command) :
    (t.arguments c).map Argument.text = (t.invocation c).argv := by
  have hwording : (t.wording c).map Argument.text = (t.invocation c).args := by
    cases c <;> rfl
  rw [arguments, ofSettings, List.map_append, List.map_flatMap, hwording]
  rfl

/-- Of all that a command is given, only the remote can be taken for an option. -/
theorem exposed_arguments (t : Terms) (c : Command) :
    exposed [] (t.arguments c) =
      if (c = .push ∨ c = .fetch) ∧ startsWithDash t.remote then [t.remote] else [] := by
  -- what a branch is written behind keeps its own dashes away from the start
  have hbranch : startsWithDash ("HEAD:refs/heads/" ++ t.branch) = false ∧
      startsWithDash ("refs/heads/" ++ t.branch) = false := by
    simp [startsWithDash]
  have hsettings := Argument.end_notMem_ofSettings (t.invocation c).settings
  rw [arguments, Argument.exposed_ofSettings]
  cases c with
  | add => simp [wording, exposed, isOperandNext]
  | commit => simp [wording, exposed, isOperandNext]
  | push => simp [wording, exposed, isOperandNext, hsettings, hbranch]
  | fetch => simp [wording, exposed, isOperandNext, hsettings, hbranch]
  | reset => simp [wording, exposed]

end Terms

/-- Whatever git answers, of the data that a run calls it with only the remote can be taken for an
option, where it is pushed to or fetched from, and it is taken for one if it begins with a dash. -/
theorem run_exposed (h : Host) (root : Path) (config : Config) (event : Event) (options : Options)
    (today : Date) :
    ∃ (message : String) (commands : List Command),
      let t := Terms.ofRun root config event options message
      (h.run root config event options today).2.executable.calls.map Invocation.argv =
        h.executable.calls.map Invocation.argv ++
          commands.map (fun c => (t.arguments c).map Argument.text) ∧
      ∀ c ∈ commands, exposed [] (t.arguments c) =
        if (c = .push ∨ c = .fetch) ∧ startsWithDash config.push.remote then [config.push.remote]
        else [] := by
  obtain ⟨message, log, hran⟩ := exists_ran_of_run h root config event options today
  refine ⟨message, log.map Prod.fst, ?_, fun c _ => Terms.exposed_arguments _ c⟩
  rw [hran.calls_eq]
  simp [Terms.text_arguments]

/-- A configuration may have a remote of that kind. -/
theorem run_exposed_remote :
    Config.parse "[push]\nremote = \"--all\"\n" = .ok { push := { remote := "--all" } } ∧
      ["push", "--all", "HEAD:refs/heads/main"] ∈
        (clean.run ⟨"."⟩ { push := { remote := "--all" } }
          (.ofDescription "Add export" "main" none) {} ⟨2024, 5, 1⟩).2.executable.calls.map
            Invocation.argv ∧
      exposed [] [.fixed "push", .data "--all", .data "HEAD:refs/heads/main"] = ["--all"] := by
  decide +kernel

end MergeNotes.Git.Host
