import MergeNotes.Text

namespace MergeNotes

structure Path where
  text : String
  deriving DecidableEq, Repr

namespace Path

abbrev Segment := List Char

inductive Component where
  | root
  | here
  | up
  | name (segment : Segment)
  deriving DecidableEq, Repr

def segments (p : Path) : List Segment := Chars.pieces (· == '/') p.text.toList

def ofSegments (ss : List Segment) : Path := ⟨String.ofList (['/'].intercalate ss)⟩

def isFiller (s : Segment) : Bool := s == [] || s == ['.']

def Component.ofSegment (s : Segment) : Component := if s = ['.', '.'] then .up else .name s

def isAbsolute (p : Path) : Bool := p.text.toList.head? == some '/'

/-- The component that only the start of a path can be. -/
def start? (p : Path) : Option Component :=
  if p.isAbsolute then some .root
  else if p.segments.head? == some ['.'] then some .here
  else none

def body (p : Path) : List Segment := if p.start?.isSome then p.segments.tail else p.segments

/-- Empty segments and single dots inside a path are no components; a dot at the start of a relative
path is one. -/
def components (p : Path) : List Component :=
  p.start?.toList ++ (p.body.filter (!isFiller ·)).map Component.ofSegment

def join (p q : Path) : Path :=
  if q.isAbsolute || p.text.isEmpty then q
  else if p.text.toList.getLast? == some '/' then ⟨p.text ++ q.text⟩
  else ⟨p.text ++ "/" ++ q.text⟩

def dropLastFillers (ss : List Segment) : List Segment :=
  (ss.reverse.dropWhile isFiller).reverse

def ofBody (start? : Option Component) (body : List Segment) : Path :=
  match start? with
  | some .root => ofSegments ([] :: if body.isEmpty then [[]] else body)
  | some .here => ofSegments (['.'] :: body)
  | _ => ofSegments body

/-- The path without its last component, unless that is the root. -/
def parent? (p : Path) : Option Path :=
  match (dropLastFillers p.body).reverse with
  | _ :: rest => some (ofBody p.start? (dropLastFillers rest.reverse))
  | [] => if p.start? = some .here then some (ofSegments []) else none

/-- Drops that many segments that are no fillers, and the fillers among them. -/
def dropNamed : Nat → List Segment → List Segment
  | 0, ss => ss
  | _, [] => []
  | n + 1, s :: ss => if isFiller s then dropNamed (n + 1) ss else dropNamed n ss

/-- What of `p` follows `base`, if its components start with those of `base`. -/
def after? (base p : Path) : Option Path :=
  if base.components = [] then some (ofBody p.start? (dropLastFillers p.body))
  else if base.components.isPrefixOf p.components then
    let named := (base.body.filter (!isFiller ·)).length
    some (ofSegments (dropLastFillers ((dropNamed named p.body).dropWhile isFiller)))
  else none

def relativeTo (base p : Path) : Path := (after? base p).getD p

end Path
end MergeNotes
