import MergeNotes.Chars.Blank
import MergeNotes.Chars.Search

namespace MergeNotes.Extraction.Fields

/-- Parts read so far, one list for each configured position, and the position being read. -/
structure Reading where
  current : Option Nat
  parts : List (List (List Char))

def Reading.start (fields : List (List Char)) : Reading := ⟨none, fields.map fun _ => []⟩

def Reading.step (fields : List (List Char)) (r : Reading) (line : List Char) : Reading :=
  match Chars.cutAt? [':'] line with
  | some (name, value) =>
    match fields.idxOf? name with
    | some i => ⟨some i, r.parts.set i [Chars.trim value]⟩
    | none => ⟨none, r.parts⟩
  | none =>
    match r.current with
    | some i => ⟨some i, r.parts.modify i (· ++ [Chars.trim line])⟩
    | none => r

/-- Line by line; only a line feed ends a line here. A line with a colon whose left side is a
field's name starts that field anew, any other line with a colon ends the current field, and a line
without a colon continues it. -/
def read (fields : List (List Char)) (description : List Char) : Reading :=
  (Chars.pieces (· == '\n') description).foldl (Reading.step fields) (Reading.start fields)

def render? (field : List Char) (parts : List (List Char)) : Option (List Char) :=
  let value := [';', ' '].intercalate (parts.filter (!·.isEmpty))
  if value.isEmpty then none else some (field ++ [':', ' '] ++ value)

def extract? (fields : List (List Char)) (description : List Char) : Option (List Char) :=
  let rendered := (fields.zip (read fields description).parts).filterMap fun (f, ps) => render? f ps
  if rendered.isEmpty then none else some ([' ', '|', ' '].intercalate rendered)

end MergeNotes.Extraction.Fields
