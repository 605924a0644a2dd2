import MergeNotes.Path

namespace MergeNotes

/-- The names from the root down to a file or a directory. -/
abbrev Location := List Path.Segment

inductive Node where
  | directory
  | file (content : ByteArray)

structure Disk where
  nodes : List (Location × Node)
  /-- The directory from which relative paths are followed. -/
  here : Location

namespace Disk

inductive Error where
  | notFound
  | notADirectory
  | isADirectory
  | alreadyExists
  | nameTooLong
  | nulInPath
  | notText
  deriving DecidableEq, Repr

def Error.message : Error → String
  | notFound => "No such file or directory (os error 2)"
  | notADirectory => "Not a directory (os error 20)"
  | isADirectory => "Is a directory (os error 21)"
  | alreadyExists => "File exists (os error 17)"
  | nameTooLong => "File name too long (os error 36)"
  | nulInPath => "file name contained an unexpected NUL byte"
  | notText => "stream did not contain valid UTF-8"

/-- The root is always a directory. -/
def node? (d : Disk) (l : Location) : Option Node :=
  if l = [] then some .directory else d.nodes.lookup l

def put (d : Disk) (l : Location) (n : Node) : Disk :=
  { d with nodes := (l, n) :: d.nodes.filter (·.1 ≠ l) }

def erase (d : Disk) (l : Location) : Disk := { d with nodes := d.nodes.filter (·.1 ≠ l) }

/-- Bytes of the longest name and of the shortest path that is too long. -/
def maxNameBytes : Nat := 255

def pathBytesLimit : Nat := 4096

def bytesOf (s : Path.Segment) : Nat := (String.ofList s).utf8ByteSize

def enter (d : Disk) (l : Location) (s : Path.Segment) : Except Error Location :=
  match d.node? l with
  | none => .error .notFound
  | some (.file _) => .error .notADirectory
  | some .directory =>
    if Path.isFiller s then .ok l
    else if s = ['.', '.'] then .ok l.dropLast
    else if maxNameBytes < bytesOf s then .error .nameTooLong
    else .ok (l ++ [s])

def walk (d : Disk) (l : Location) (ss : List Path.Segment) : Except Error Location :=
  ss.foldlM d.enter l

/-- Where a path starts, unless no file operation takes it. -/
def origin (d : Disk) (p : Path) : Except Error Location :=
  if p.text.toList.contains '\x00' then .error .nulInPath
  else if p.text.isEmpty then .error .notFound
  else if pathBytesLimit ≤ p.text.utf8ByteSize then .error .nameTooLong
  else .ok (if p.isAbsolute then [] else d.here)

/-- Where a path leads; nothing needs to be there yet. -/
def resolve (d : Disk) (p : Path) : Except Error Location := do
  d.walk (← d.origin p) p.segments

def read (d : Disk) (p : Path) : Except Error ByteArray := do
  match d.node? (← d.resolve p) with
  | none => .error .notFound
  | some .directory => .error .isADirectory
  | some (.file content) => .ok content

def readText (d : Disk) (p : Path) : Except Error String := do
  match String.fromUTF8? (← d.read p) with
  | some s => .ok s
  | none => .error .notText

def nodeAt? (d : Disk) (p : Path) : Option Node :=
  match d.resolve p with
  | .ok l => d.node? l
  | .error _ => none

def isDirectory (d : Disk) (p : Path) : Bool := d.nodeAt? p matches some .directory

def isFile (d : Disk) (p : Path) : Bool := d.nodeAt? p matches some (.file _)

/-- The directory that something at the path would be made in, and its name there; the root and
paths that end in dots have no such name. -/
def place (d : Disk) (p : Path) : Except Error (Location × Option Location) := do
  let start ← d.origin p
  match p.segments.reverse.dropWhile (·.isEmpty) with
  | [] => return (start, none)
  | name :: rest =>
    let parent ← d.walk start rest.reverse
    let l ← d.enter parent name
    return (parent, if Path.isFiller name || name = ['.', '.'] then none else some l)

def fileTarget (d : Disk) (p : Path) : Except Error Location := do
  match ← d.place p with
  | (_, none) => .error .isADirectory
  | (_, some l) =>
    if p.text.toList.getLast? = some '/' then .error .isADirectory
    else match d.node? l with
      | some .directory => .error .isADirectory
      | _ => .ok l

def contentAt (d : Disk) (l : Location) : ByteArray :=
  match d.node? l with
  | some (.file content) => content
  | _ => .empty

/-- Replaces the content of a file, which need not be there. -/
def write (d : Disk) (p : Path) (content : ByteArray) : Except Error Disk := do
  return d.put (← d.fileTarget p) (.file content)

def append (d : Disk) (p : Path) (content : ByteArray) : Except Error Disk := do
  let l ← d.fileTarget p
  return d.put l (.file (d.contentAt l ++ content))

def makeDirectory (d : Disk) (p : Path) : Except Error Disk := do
  match ← d.place p with
  | (_, none) => .error .alreadyExists
  | (_, some l) =>
    if (d.node? l).isSome then .error .alreadyExists else return d.put l .directory

def ensureDirectory (d : Disk) (p : Path) : Except Error Disk :=
  match d.makeDirectory p with
  | .ok d => .ok d
  | .error e => if d.isDirectory p then .ok d else .error e

/-- Makes a directory and those above it that are missing; what was made stays if one fails. -/
def makeDirectories (d : Disk) : Nat → Path → Except Error Unit × Disk
  | 0, _ => (.error .notFound, d)
  | fuel + 1, p =>
    if p.text.isEmpty then (.ok (), d)
    else match d.ensureDirectory p, p.parent? with
      | .ok d, _ => (.ok (), d)
      | .error .notFound, some parent =>
        match d.makeDirectories fuel parent with
        | (.error e, d) => (.error e, d)
        | (.ok (), d) =>
          match d.ensureDirectory p with
          | .ok d => (.ok (), d)
          | .error e => (.error e, d)
      | .error e, _ => (.error e, d)

def makeParents (d : Disk) (p : Path) : Except Error Unit × Disk :=
  match p.parent? with
  | none => (.ok (), d)
  | some parent => d.makeDirectories (parent.components.length + 1) parent

def leave (d : Disk) (p : Path) : Node → Disk
  | .directory => (d.makeDirectories (p.components.length + 1) p).2
  | .file content =>
    let d := (d.makeParents p).2
    (d.write p content).toOption.getD d

end Disk
end MergeNotes
