import MergeNotes.Decimal

namespace MergeNotes

/-- A JSON document as it stands in a text, up to the point where the text stops being JSON. A
broken value ends everything around it, so that a reader that walks the document in order meets
whatever comes first: a value of the wrong shape, or the break. -/
inductive Json where
  | null
  | bool (b : Bool)
  /-- A number; `plain` if it is written with neither a fraction nor an exponent. -/
  | number (value : Decimal) (plain : Bool)
  /-- The code points of a string; an escape may put half of a surrogate pair there. -/
  | string (points : List Nat)
  | array (items : List Json) (closed : Bool)
  | object (members : List (List Nat × Json)) (closed : Bool)
  | broken
  deriving Repr

namespace Json

mutual

/-- Whether the text of the value was JSON to its end. -/
def isWhole : Json → Bool
  | array items closed => closed && areWhole items
  | object members closed => closed && membersAreWhole members
  | broken => false
  | _ => true

def areWhole : List Json → Bool
  | [] => true
  | v :: vs => v.isWhole && areWhole vs

def membersAreWhole : List (List Nat × Json) → Bool
  | [] => true
  | (_, v) :: ms => v.isWhole && membersAreWhole ms

end

def isHighSurrogate (p : Nat) : Bool := 0xD800 ≤ p && p < 0xDC00

def isLowSurrogate (p : Nat) : Bool := 0xDC00 ≤ p && p < 0xE000

/-- The characters of a string, in which each surrogate must be half of a pair. -/
def chars? : List Nat → Option (List Char)
  | [] => some []
  | h :: l :: ps =>
    if isHighSurrogate h && isLowSurrogate l then
      (chars? ps).map (Char.ofNat (0x10000 + (h - 0xD800) * 0x400 + (l - 0xDC00)) :: ·)
    else if isHighSurrogate h || isLowSurrogate h then none
    else (chars? (l :: ps)).map (Char.ofNat h :: ·)
  | [p] => if isHighSurrogate p || isLowSurrogate p then none else some [Char.ofNat p]

def text? (points : List Nat) : Option String := (chars? points).map String.ofList

/-- The integer of a plain number that fits in 64 bits, with or without a sign; zero has no
sign. -/
def integer? (value : Decimal) (plain : Bool) : Option Int :=
  if !plain || value.exponent ≠ 0 then none
  else if value.negative then
    if 0 < value.mantissa && value.mantissa ≤ Nat.pow 2 63 then some (-value.mantissa) else none
  else if value.mantissa < UInt64.size then some value.mantissa else none

def maxExponent : Nat := 308

/-- Whether a number is a finite double when its digits, its power of ten and then their product are
each rounded to one. -/
def isFinite (value : Decimal) : Bool :=
  value.mantissa == 0 || value.exponent < 0 ||
    (value.exponent ≤ maxExponent &&
      Decimal.nearestDouble value.mantissa *
          Decimal.nearestDouble (Nat.pow 10 value.exponent.toNat) <
        Decimal.overflowBound)

end Json
end MergeNotes
