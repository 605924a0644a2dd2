import MergeNotes.CommandLine
import Std.Time.DateTime

namespace MergeNotes.CommandLine

def nestingLimit : Nat := 64

/-- Puts what stands in a directory below the location `here`; links are passed over. -/
def takeIn (directory : IO.FS.DirEntry) (here : Location) : Nat → Disk → IO Disk
  | 0, d => return d
  | fuel + 1, d => do
    let entries ← directory.path.readDir
    entries.toList.foldlM (fun d entry => do
      let l := here ++ [entry.fileName.toList]
      match (← entry.path.symlinkMetadata).type with
      | .dir => takeIn entry l fuel (d.put l .directory)
      | .file => return d.put l (.file (← IO.FS.readBinFile entry.path))
      | _ => return d) d

def takeFile (d : Disk) (name : String) : IO Disk := do
  try return d.leave ⟨name⟩ (.file (← IO.FS.readBinFile name))
  catch _ => return d

def loadDisk (names : List String) : IO Disk := do
  let current ← IO.currentDir
  let here := (Path.mk current.toString).segments.filter (!·.isEmpty)
  let above := (List.range here.length).map fun n => (here.take (n + 1), Node.directory)
  let d ← takeIn ⟨current, "."⟩ here nestingLimit ⟨above, here⟩
  names.foldlM takeFile d

def locationText (l : Location) : String := "/" ++ (Path.ofSegments l).text

def wasChanged (before : Disk) (l : Location) (content : ByteArray) : Bool :=
  match before.node? l with
  | some (.file old) => old != content
  | _ => true

/-- Writes the files that were changed, after the directories that were made. -/
def saveDisk (before after : Disk) : IO Unit := do
  for (l, n) in after.nodes.reverse do
    match n with
    | .directory => if (before.node? l).isNone then IO.FS.createDirAll (locationText l)
    | .file content =>
      if wasChanged before l content then IO.FS.writeBinFile (locationText l) content

def loadEnvironment (names : List String) : IO Environment :=
  names.filterMapM fun name => do return (← IO.getEnv name).map (name, ·)

/-- The date of a count of days after the first of January 1970. -/
def dateOfDays (days : Std.Time.Day.Offset) : Date :=
  let d := Std.Time.PlainDate.ofEpochDay days
  ⟨d.year, d.month.val.toNat, d.day.val.toNat⟩

def readsInput : Command → Bool
  | .extract _ _ => true
  | .update call => call.descriptionFile.any Session.isInput
  | .workflow _ _ => false

def needsInput (environment : Environment) (args : List String) : Bool :=
  match read environment args with
  | .ok command => readsInput command
  | .error _ => false

partial def readAll (stream : IO.FS.Stream) (read : ByteArray) : IO ByteArray := do
  let more ← stream.read 65536
  if more.isEmpty then return read else readAll stream (read ++ more)

end MergeNotes.CommandLine

open MergeNotes MergeNotes.CommandLine in
/-- Takes the files that a call can concern into memory, runs the call on them, and writes back
those that came out different. The git executable is not started from here, so an update that has
something to commit ends at its first call. -/
def main (args : List String) : IO UInt32 := do
  let environment ← loadEnvironment [eventVariable, Session.outputVariable]
  let disk ← loadDisk (args ++ environment.map Prod.snd)
  let input ← if needsInput environment args then readAll (← IO.getStdin) .empty else pure .empty
  let session : Session := {
    host := { disk, executable := { present := false } }
    environment
    input
    today := dateOfDays (← Std.Time.Timestamp.now).toDaysSinceUnixEpoch }
  let result := session.run args
  saveDisk disk result.host.disk
  IO.print result.output
  match result.ending.complaint with
  | some complaint => IO.eprintln complaint
  | none => pure ()
  return result.ending.code.toUInt32
