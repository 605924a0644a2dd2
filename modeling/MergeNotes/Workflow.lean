import MergeNotes.Disk
import MergeNotes.Failure
import MergeNotes.Template

namespace MergeNotes.Workflow

def program : String := "mergelog"

/-- The version of the program that the workflow installs. -/
def version : String := "0.1.0"

/-- The place for the value of a name, in two braces. -/
def slot (name : String) : String := "\x7b\x7b " ++ name ++ " \x7d\x7d"

def raw (text : String) : String := "{% raw %}" ++ text ++ "{% endraw %}"

/-- An expression of the workflow itself. -/
def expression (e : String) : String := "$" ++ slot e

def targetBranch : String := expression "github.event.pull_request.base.ref"

/-- The lines of the template. Expressions that are evaluated only where the workflow runs stand in
raw blocks. -/
def templateLines : List String := [
  "name: Update changelog",
  "",
  "on:",
  "  pull_request:",
  "    types: [closed]",
  "",
  "concurrency:",
  "  group: changelog-" ++ raw targetBranch,
  "  cancel-in-progress: false",
  "",
  "jobs:",
  "  update-changelog:",
  "    if: github.event.pull_request.merged == true",
  "    runs-on: " ++ slot "runs_on",
  "    permissions:",
  "      contents: write",
  "    steps:",
  "      - name: Checkout target branch",
  "        uses: actions/checkout@v4",
  "        with:",
  "          ref: " ++ raw targetBranch,
  "          persist-credentials: false",
  "",
  "      - name: Install " ++ program,
  "        run: cargo install " ++ program ++ " --version " ++ slot "version" ++ " --locked",
  "",
  "      - name: Append changelog entry",
  "        id: changelog",
  "        env:",
  "          GITHUB_TOKEN: " ++ raw (expression "secrets.GITHUB_TOKEN"),
  "        run: " ++ program ++ " update"]

def templateText : String := String.join (templateLines.map (· ++ "\n"))

structure File where
  path : Path
  content : String
  deriving DecidableEq, Repr

def path : Path := ⟨".github/workflows/changelog.yml"⟩

def bindings (label : String) : List (String × Template.Value) := [
  ("runs_on", Template.ofText label),
  ("version", Template.ofText version)]

def content (label : String) : Except Template.Error String := do
  (← Template.parse templateText).render (bindings label)

/-- The workflow whose jobs run where the label says; the label must not be blank. -/
def file (label : String) : Except Failure File :=
  if Text.isBlank label then .error (.refused .runnerEmpty)
  else match content (Text.trim label) with
    | .ok content => .ok ⟨path, content⟩
    | .error e => .error (.template path.text e)

/-- Writes a file below a directory, with the directories above it; its path is the reply. -/
def File.write (f : File) (root : Path) (d : Disk) : Except Disk.Error Path × Disk :=
  let target := root.join f.path
  match d.makeParents target with
  | (.error e, d) => (.error e, d)
  | (.ok (), d) =>
    match d.write target f.content.toUTF8 with
    | .error e => (.error e, d)
    | .ok d => (.ok target, d)

structure Made where
  file : File
  written : Option Path

def make (label : String) (root : Option Path) (d : Disk) : Except Failure Made × Disk :=
  match file label, root with
  | .error e, _ => (.error e, d)
  | .ok f, none => (.ok ⟨f, none⟩, d)
  | .ok f, some root =>
    match f.write root d with
    | (.error e, d) => (.error (.disk e), d)
    | (.ok p, d) => (.ok ⟨f, some p⟩, d)

end MergeNotes.Workflow
