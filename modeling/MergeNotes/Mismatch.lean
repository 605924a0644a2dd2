import MergeNotes.Chars.Quoted
import MergeNotes.Text

namespace MergeNotes

inductive Found where
  | null
  | boolean (b : Bool)
  | integer (n : Int)
  | floatingPoint
  | text (s : String)
  | sequence
  | map
  deriving DecidableEq, Repr

def Found.describe : Found → String
  | null => "null"
  | boolean b => "boolean `" ++ (if b then "true" else "false") ++ "`"
  | integer n => "integer `" ++ toString n ++ "`"
  | floatingPoint => "floating point"
  | text s => "string " ++ String.ofList (Chars.quoted s.toList)
  | sequence => "sequence"
  | map => "map"

inductive Mismatch where
  | unknownField (name : String) (known : List String)
  | unknownVariant (name : String) (known : List String)
  | missingField (name : String)
  | duplicateField (name : String)
  | invalidType (found : Found) (expected : String)
  | invalidValue (found : Found) (expected : String)
  /-- A sequence stops before the element of that position. -/
  | invalidLength (length : Nat) (expected : String)
  deriving DecidableEq, Repr

namespace Mismatch

def ticked (s : String) : String := "`" ++ s ++ "`"

def oneOf : List String → String
  | [a] => ticked a
  | [a, b] => ticked a ++ " or " ++ ticked b
  | names => "one of " ++ Text.joined ", " (names.map ticked)

def message : Mismatch → String
  | unknownField name known => "unknown field " ++ ticked name ++ ", expected " ++ oneOf known
  | unknownVariant name known => "unknown variant " ++ ticked name ++ ", expected " ++ oneOf known
  | missingField name => "missing field " ++ ticked name
  | duplicateField name => "duplicate field " ++ ticked name
  | invalidType found expected =>
    "invalid type: " ++ found.describe ++ ", expected " ++ expected
  | invalidValue found expected =>
    "invalid value: " ++ found.describe ++ ", expected " ++ expected
  | invalidLength length expected =>
    "invalid length " ++ toString length ++ ", expected " ++ expected

/-- A record in the wording of an invalid length. -/
def recordOf (name : String) (size : Nat) : String :=
  name ++ " with " ++ toString size ++ (if size = 1 then " element" else " elements")

end Mismatch

/-- Why a text gave no value: it is not of its format, or what it says does not fit. -/
inductive Misread where
  | malformed
  | mismatch (m : Mismatch)
  deriving DecidableEq, Repr

def Misread.message : Misread → String
  | malformed => "malformed text"
  | mismatch m => m.message

end MergeNotes
