namespace MergeNotes

/-- The number `mantissa * 10 ^ exponent`, negated if `negative`. -/
structure Decimal where
  negative : Bool
  mantissa : Nat
  exponent : Int
  deriving DecidableEq, Repr

namespace Decimal

def natOf (digits : List Char) : Nat :=
  digits.foldl (fun n d => n * 10 + (d.toNat - '0'.toNat)) 0

def hexValue? (c : Char) : Option Nat :=
  if c.isDigit then some (c.toNat - '0'.toNat)
  else if 'a' ≤ c && c ≤ 'f' then some (c.toNat - 'a'.toNat + 10)
  else if 'A' ≤ c && c ≤ 'F' then some (c.toNat - 'A'.toNat + 10)
  else none

def ofHex? (digits : List Char) : Option Nat :=
  digits.foldlM (fun n d => (hexValue? d).map (n * 16 + ·)) 0

def doubleBits : Nat := 53

/-- The number with at most as many significant bits as a double has that is nearest to `n`; of two,
the one whose last bit is zero. -/
def nearestDouble (n : Nat) : Nat :=
  let unit := Nat.pow 2 (Nat.log2 n + 1 - doubleBits)
  let quotient := n / unit
  let twice := 2 * (n % unit)
  let up := unit < twice || (twice == unit && quotient % 2 == 1)
  (if up then quotient + 1 else quotient) * unit

/-- The least number that is nearer to 2 to the 1024th than to any double. -/
def overflowBound : Nat := Nat.pow 2 1024 - Nat.pow 2 970

/-- Whether the nearest double is finite. The count of digits settles all but a narrow band. -/
def isFinite (d : Decimal) : Bool :=
  let magnitude := ((Nat.toDigits 10 d.mantissa).length : Int) + d.exponent
  d.mantissa == 0 || magnitude ≤ 308 ||
    (magnitude ≤ 309 &&
      if 0 ≤ d.exponent then d.mantissa * Nat.pow 10 d.exponent.toNat < overflowBound
      else d.mantissa / Nat.pow 10 d.exponent.natAbs < overflowBound)

end Decimal
end MergeNotes
