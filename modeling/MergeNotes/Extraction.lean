import MergeNotes.Extraction.Fields
import MergeNotes.Extraction.Summary
import MergeNotes.Text

namespace MergeNotes

inductive Rule where
  | summary
  | fields
  deriving DecidableEq, Repr

namespace Rule

def name : Rule → String
  | summary => "summary"
  | fields => "fields"

def ofName? : String → Option Rule
  | "summary" => some summary
  | "fields" => some fields
  | _ => none

/-- Blanks around a rule's name and the case of A to Z do not matter; the error is the name so
reduced. -/
def parse (text : String) : Except String Rule :=
  let name := Text.asciiLower (Text.trim text)
  match ofName? name with
  | some rule => .ok rule
  | none => .error name

end Rule

namespace Extraction

def defaultFields : List String :=
  ["Sprint", "Environment", "Date", "Tickets", "Significant Updates", "Bug Fixes"]

def byRule (rule : Rule) (fields : List String) (description : String) : Option String :=
  (match rule with
    | .summary => Summary.extract? description.toList
    | .fields => Fields.extract? (fields.map String.toList) description.toList).map String.ofList

/-- Whether the marker bars the description; a blank marker bars nothing. -/
def isBarred (marker description : String) : Bool :=
  !Text.isBlank marker && Text.occursIn marker description

def unlessMarked (marker : Option String) (extract : String → Option String)
    (description : String) : Option String :=
  if marker.any (isBarred · description) then none else extract description

end Extraction
end MergeNotes
