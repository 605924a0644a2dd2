import MergeNotes.Chars.Quoted
import MergeNotes.Json

namespace MergeNotes.Json

def unicodeEscape (p : Nat) : List Char :=
  let digits := Chars.hexDigits p
  ['\\', 'u'] ++ List.replicate (4 - digits.length) '0' ++ digits

/-- How one code point is written between the quotes: control characters, the quote, the backslash
and halves of surrogate pairs as escapes, all else as it is. -/
def writePoint (p : Nat) : List Char :=
  match p with
  | 0x22 => ['\\', '"']
  | 0x5C => ['\\', '\\']
  | 0x08 => ['\\', 'b']
  | 0x0C => ['\\', 'f']
  | 0x0A => ['\\', 'n']
  | 0x0D => ['\\', 'r']
  | 0x09 => ['\\', 't']
  | p =>
    if p < 0x20 || isHighSurrogate p || isLowSurrogate p then unicodeEscape p else [Char.ofNat p]

def writeString (points : List Nat) : List Char := '"' :: points.flatMap writePoint ++ ['"']

/-- A plain number is written without its power of ten, which has to be the zeroth. -/
def writeNumber (value : Decimal) (plain : Bool) : List Char :=
  (if value.negative then ['-'] else []) ++ Nat.toDigits 10 value.mantissa ++
    if plain then []
    else 'e' :: (if value.exponent < 0 then ['-'] else []) ++ Nat.toDigits 10 value.exponent.natAbs

mutual

def write : Json → List Char
  | null => "null".toList
  | bool b => (if b then "true" else "false").toList
  | number value plain => writeNumber value plain
  | string points => writeString points
  | array items closed => '[' :: writeItems items ++ if closed then [']'] else []
  | object members closed => '{' :: writeMembers members ++ if closed then ['}'] else []
  | broken => []

def writeItems : List Json → List Char
  | [] => []
  | [v] => write v
  | v :: vs => write v ++ ',' :: writeItems vs

def writeMembers : List (List Nat × Json) → List Char
  | [] => []
  | [(k, v)] => writeString k ++ ':' :: write v
  | (k, v) :: ms => writeString k ++ ':' :: write v ++ ',' :: writeMembers ms

end

def toText (v : Json) : String := String.ofList v.write

def points (s : String) : List Nat := s.toList.map Char.toNat

def ofString (s : String) : Json := string (points s)

def ofNat (n : Nat) : Json := number ⟨false, n, 0⟩ true

def ofMembers (members : List (String × Json)) : Json :=
  object (members.map fun (k, v) => (points k, v)) true

end MergeNotes.Json
