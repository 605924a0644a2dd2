import MergeNotes.Git.Packed
import MergeNotes.Git.Repository

namespace MergeNotes.Git.Reference

abbrev Name := Octets

inductive Target where
  | direct (sha : Sha)
  | symbolic (name : Name)
  deriving DecidableEq

def maxNameBytes : Nat := 1023

def isNameChar (c : Char) : Bool :=
  ' ' < c && c != '\x7f' && !(['~', '^', ':', '\\', '?', '[', '*'].contains c)

def isPart (part : Octets) : Bool :=
  part.all isNameChar && part.head? != some '.' && !Chars.occursIn ['.', '.'] part &&
    !Chars.occursIn ['@', '{'] part && !(".lock".toList.isSuffixOf part)

/-- A name may start with a caret. -/
def dropCaret (cs : Octets) : Octets := if cs.head? == some '^' then cs.tail else cs

/-- Capital letters, with underscores only between them; the caret counts for one. -/
def isCapital (part : Octets) : Bool :=
  (dropCaret part).all (fun c => c.isUpper || c == '_') && part.head? != some '_' &&
    part.getLast? != some '_'

/-- Whether a name of such parts, none of them empty, is long enough: only names in capitals, and
`@`, may have a single part, and only they may not start a longer one. -/
def isQualified (parts : List Octets) : Bool :=
  parts == [['@']] || (parts.length == 1) == isCapital (parts.headD [])

/-- The usual form of a name, in which no part is empty, if it is the name of a reference. -/
def normalize? (name : Name) : Option Name :=
  let parts := Chars.pieces (· == '/') name
  let kept := parts.filter (!·.isEmpty)
  let normal := ['/'].intercalate kept
  if (Chars.pieces (· == '/') (dropCaret name)).all isPart && parts.head? != some [] &&
      parts.getLast? != some [] && name.getLast? != some '.' && normal.length ≤ maxNameBytes &&
      isQualified kept then some normal
  else none

def parse? (content : Octets) : Option Target :=
  match Chars.dropPrefix? "ref: ".toList content with
  | some _ =>
    match Chars.dropPrefix? "ref: ".toList (Chars.trimEndBy Chars.isAsciiSpace content) with
    | none | some [] => none
    | some name => some (.symbolic (Octets.untilNul name))
  | none =>
    match readSha? content with
    | some (sha, []) => some (.direct sha)
    | some (sha, c :: _) =>
      if c == '\x00' || Chars.isAsciiSpace c then some (.direct sha) else none
    | none => none

def readFile (d : Disk) (r : Repository) (name : Name) : Except Fault Octets :=
  match Octets.text? name with
  | none => .error .missing
  | some path =>
    if Disk.pathBytesLimit ≤ name.length then .error .broken
    else match d.walk r.directory (Path.mk path).segments with
      | .error e => .error (if e = .nameTooLong then .broken else .missing)
      | .ok l =>
        match d.node? l with
        | some (.file content) => .ok (Octets.ofBytes content)
        | _ => .error .missing

/-- The commit that the packed references give for a name; there need not be any. -/
def readPacked (d : Disk) (r : Repository) (name : Name) : Except Fault Sha :=
  match d.node? (r.directory ++ ["packed-refs".toList]) with
  | none => .error .missing
  | some .directory => .error .broken
  | some (.file content) => Packed.find (Octets.ofBytes content) name

def read (d : Disk) (r : Repository) (name : Name) : Except Fault Target :=
  match readFile d r name with
  | .ok content => (parse? content).elim (.error .broken) .ok
  | .error .broken => .error .broken
  | .error .missing => (readPacked d r name).map .direct

/-- References may stand for one another this many times. -/
def maxDepth : Nat := 5

def follow (d : Disk) (r : Repository) : Nat → Name → Except Fault (Name × Sha)
  | depth, name =>
    match read d r name with
    | .error fault => .error fault
    | .ok (.direct sha) => .ok (name, sha)
    | .ok (.symbolic next) =>
      match depth with
      | 0 => .error .broken
      | depth + 1 => follow d r depth next

def resolve (d : Disk) (r : Repository) (name : Name) : Except Fault (Name × Sha) :=
  match normalize? name with
  | none => .error .broken
  | some name => follow d r maxDepth name

/-- A name without the part that says which kind of reference it is. -/
def shorthand (name : Name) : Name :=
  (["refs/heads/", "refs/tags/", "refs/remotes/", "refs/"].findSome? fun start =>
    Chars.dropPrefix? start.toList name).getD name

end MergeNotes.Git.Reference
