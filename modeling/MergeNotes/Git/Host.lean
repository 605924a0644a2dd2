import MergeNotes.Bytes.Utf8
import MergeNotes.Failure
import MergeNotes.Git.History
import MergeNotes.Git.Ignore

namespace MergeNotes.Git

structure Reply where
  code : Nat := 0
  output : ByteArray := .empty
  errorOutput : ByteArray := .empty
  /-- Files and directories that the call leaves behind, seen from where it runs. -/
  writes : List (Path × Node) := []

/-- A call of the executable: settings of this call alone, then its arguments. -/
structure Invocation where
  settings : List String
  args : List String
  deriving DecidableEq, Repr

def Invocation.argv (i : Invocation) : List String :=
  i.settings.flatMap (fun s => ["-c", s]) ++ i.args

structure Executable where
  present : Bool := true
  /-- The answers to come; calls past their end succeed and say nothing. -/
  replies : List Reply := []
  calls : List Invocation := []

structure Host where
  disk : Disk
  /-- The directory of the one repository that has commits and an index. -/
  home : Location := []
  history : History := []
  index : Tree := []
  executable : Executable := {}

namespace Host

/-- What is said of a call that failed; settings may be secret and are left out. -/
def complaint (args : List String) (details : String) : Failure :=
  .git ("git " ++ Text.joined " " args) details

def startFault? (h : Host) (root : Path) (i : Invocation) : Option String :=
  if (root.text :: i.argv).any (·.toList.contains '\x00') then
    some "nul byte found in provided data"
  else match h.disk.nodeAt? root with
    | some .directory => if h.executable.present then none else some Disk.Error.notFound.message
    | some (.file _) => some Disk.Error.notADirectory.message
    | none => some Disk.Error.notFound.message

def details (r : Reply) : String :=
  let said := Text.trim (Bytes.toText r.errorOutput)
  if said.isEmpty then "Unknown error" else said

def invoke (h : Host) (root : Path) (i : Invocation) : Except Failure Unit × Host :=
  match h.startFault? root i with
  | some fault => (.error (complaint i.args fault), h)
  | none =>
    let reply := h.executable.replies.headD {}
    let executable := { h.executable with
      replies := h.executable.replies.tail
      calls := h.executable.calls ++ [i] }
    let disk := reply.writes.foldl (fun d (p, n) => d.leave (root.join p) n) h.disk
    let h := { h with disk, executable }
    if reply.code = 0 then (.ok (), h) else (.error (complaint i.args (details reply)), h)

end Host
end MergeNotes.Git
