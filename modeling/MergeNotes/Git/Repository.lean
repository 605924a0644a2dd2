import MergeNotes.Bytes.Octets
import MergeNotes.Disk

namespace MergeNotes.Git

structure Repository where
  /-- Where its own files are. -/
  directory : Location
  worktree : Location

namespace Repository

def ownName : Path.Segment := ".git".toList

/-- A directory with a head, with objects and with references is that of a repository. -/
def isDirectory (d : Disk) (l : Location) : Bool :=
  d.node? (l ++ ["HEAD".toList]) matches some (.file _) &&
    d.node? (l ++ ["objects".toList]) matches some .directory &&
    d.node? (l ++ ["refs".toList]) matches some .directory

def linked? (content : ByteArray) : Option Path :=
  let line := Chars.trimEndBy Chars.isAsciiSpace (Octets.ofBytes content)
  match Chars.dropPrefix? "gitdir:".toList line with
  | none => none
  | some rest =>
    if rest.isEmpty then none
    else (Octets.text? (Octets.untilNul (rest.dropWhile Chars.isAsciiSpace))).map Path.mk

def follow? (d : Disk) (base : Location) (p : Path) : Option Location :=
  (d.walk (if p.isAbsolute then [] else base) p.segments).toOption

def ofLink? (d : Disk) (worktree : Location) (content : ByteArray) : Option Repository := do
  let directory ← follow? d worktree (← linked? content)
  if isDirectory d directory then some ⟨directory, worktree⟩ else none

def ofOwn? (d : Disk) (l : Location) : Option Repository :=
  match d.node? l with
  | some (.file content) =>
    if l.getLast? = some ownName then ofLink? d l.dropLast content else none
  | _ => if isDirectory d l then some ⟨l, l.dropLast⟩ else none

/-- The repository at a location: its worktree, or the directory of its own files. A file in the
place of that directory says where it really is. -/
def at? (d : Disk) (l : Location) : Option Repository :=
  let own := l ++ [ownName]
  match d.node? own with
  | some (.file content) => ofLink? d l content
  | _ => if isDirectory d own then some ⟨own, l⟩ else ofOwn? d l

def open? (d : Disk) (root : Path) : Option Repository :=
  match d.resolve root with
  | .ok l => at? d l
  | .error _ => none

end Repository
end MergeNotes.Git
