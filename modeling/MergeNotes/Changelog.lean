import MergeNotes.Disk
import MergeNotes.Entry

namespace MergeNotes.Changelog

/-- A text without its last line feed gets one, so that what follows starts a line. -/
def separator (content : String) : String :=
  if content.isEmpty || content.toList.getLast? = some '\n' then "" else "\n"

def addition (content : String) (e : Entry) : String := separator content ++ e.text ++ "\n"

def lastLine? (content : String) : Option String :=
  (Text.lines content).reverse.find? (!Text.isBlank ·)

def endsWith (lastLine : Option String) (e : Entry) : Bool := lastLine.any (Text.trim · = e.text)

def recorded (content : String) (e : Entry) : String :=
  if endsWith (lastLine? content) e then content else content ++ addition content e

/-- The text of a document file; a missing file has none. -/
def readFile (d : Disk) (p : Path) : Except Disk.Error String :=
  match d.readText p with
  | .error .notFound => .ok ""
  | r => r

def readLines (d : Disk) (p : Path) : Except Disk.Error (List String) := do
  return Text.lines (← readFile d p)

def readLastLine (d : Disk) (p : Path) : Except Disk.Error (Option String) := do
  return lastLine? (← readFile d p)

def append (d : Disk) (p : Path) (e : Entry) : Except Disk.Error Unit × Disk :=
  match readFile d p with
  | .error err => (.error err, d)
  | .ok content =>
    match d.makeParents p with
    | (.error err, d) => (.error err, d)
    | (.ok (), d) =>
      match d.append p (addition content e).toUTF8 with
      | .error err => (.error err, d)
      | .ok d => (.ok (), d)

end MergeNotes.Changelog
