import MergeNotes.Decimal
import MergeNotes.Toml

namespace MergeNotes.Toml

/-- Digits, between two of which an underscore may stand. -/
def digitRun (p : Char → Bool) : List Char → List Char × List Char
  | '_' :: c :: cs =>
    if p c then
      let (ds, rest) := digitRun p cs
      (c :: ds, rest)
    else ([], '_' :: c :: cs)
  | c :: cs =>
    if p c then
      let (ds, rest) := digitRun p cs
      (c :: ds, rest)
    else ([], c :: cs)
  | [] => ([], [])

def readDigits? (p : Char → Bool) (cs : List Char) : Option (List Char × List Char) :=
  if cs.head?.any p then some (digitRun p cs) else none

def readSign : List Char → Bool × List Char
  | '-' :: cs => (true, cs)
  | '+' :: cs => (false, cs)
  | cs => (false, cs)

/-- The whole part of a number; a zero at its start stands alone. -/
def readWhole? : List Char → Option (List Char × List Char)
  | '0' :: cs => some (['0'], cs)
  | cs => readDigits? Char.isDigit cs

def readExponent? : List Char → Option (Int × List Char)
  | 'e' :: cs | 'E' :: cs => do
    let (negative, cs) := readSign cs
    let (ds, rest) ← readDigits? Char.isDigit cs
    let n : Int := Decimal.natOf ds
    return (if negative then -n else n, rest)
  | _ => none

/-- A number with a fraction or an exponent; only one too far below zero for a double may be too
large for it. -/
def readFloat? (cs : List Char) : Option (Toml × List Char) := do
  let (negative, cs) := readSign cs
  let (whole, cs) ← readWhole? cs
  let (d, rest) ← match cs with
    | '.' :: cs => do
      let (fraction, cs) ← readDigits? Char.isDigit cs
      let (scale, rest) := (readExponent? cs).getD (0, cs)
      some (⟨negative, Decimal.natOf (whole ++ fraction), scale - fraction.length⟩, rest)
    | cs => do
      let (scale, rest) ← readExponent? cs
      some ((⟨negative, Decimal.natOf whole, scale⟩ : Decimal), rest)
  if negative || d.isFinite then return (.float, rest) else none

def readSpecialFloat? (cs : List Char) : Option (Toml × List Char) :=
  match (readSign cs).2 with
  | 'i' :: 'n' :: 'f' :: rest => some (.float, rest)
  | 'n' :: 'a' :: 'n' :: rest => some (.float, rest)
  | _ => none

def isDigitIn (base : Nat) (c : Char) : Bool := (Decimal.hexValue? c).any (· < base)

def natIn (base : Nat) (ds : List Char) : Nat :=
  ds.foldl (fun n d => n * base + (Decimal.hexValue? d).getD 0) 0

def integerBound : Nat := Nat.pow 2 63

def integer? (n : Int) : Option Toml :=
  if -integerBound ≤ n ∧ n < integerBound then some (.integer n) else none

def readBased? (base : Nat) (cs : List Char) : Option (Toml × List Char) := do
  let (ds, rest) ← readDigits? (isDigitIn base) cs
  return (← integer? (natIn base ds), rest)

def readInteger? : List Char → Option (Toml × List Char)
  | '0' :: 'x' :: cs => readBased? 16 cs
  | '0' :: 'o' :: cs => readBased? 8 cs
  | '0' :: 'b' :: cs => readBased? 2 cs
  | cs => do
    let (negative, cs) := readSign cs
    let (ds, rest) ← readWhole? cs
    let n : Int := Decimal.natOf ds
    return (← integer? (if negative then -n else n), rest)

/-- Exactly `count` digits, as a number between two bounds. -/
def readFixed? (count low high : Nat) (cs : List Char) : Option (Nat × List Char) :=
  let ds := cs.take count
  let n := Decimal.natOf ds
  if ds.length = count && ds.all Char.isDigit && low ≤ n && n ≤ high then some (n, cs.drop count)
  else none

def skipChar? (c : Char) : List Char → Option (List Char)
  | d :: cs => if c = d then some cs else none
  | [] => none

def isLeapYear (y : Nat) : Bool := y % 4 = 0 && (y % 100 ≠ 0 || y % 400 = 0)

def daysIn (year month : Nat) : Nat :=
  if month = 2 then if isLeapYear year then 29 else 28
  else if month = 4 || month = 6 || month = 9 || month = 11 then 30
  else 31

def skipDate? (cs : List Char) : Option (List Char) := do
  let (year, cs) ← readFixed? 4 0 9999 cs
  let cs ← skipChar? '-' cs
  let (month, cs) ← readFixed? 2 1 12 cs
  let cs ← skipChar? '-' cs
  let (_, cs) ← readFixed? 2 1 (daysIn year month) cs
  return cs

/-- A time of day, with a second more for leap seconds and perhaps a fraction. -/
def skipTime? (cs : List Char) : Option (List Char) := do
  let (_, cs) ← readFixed? 2 0 23 cs
  let cs ← skipChar? ':' cs
  let (_, cs) ← readFixed? 2 0 59 cs
  let cs ← skipChar? ':' cs
  let (_, cs) ← readFixed? 2 0 60 cs
  match cs with
  | '.' :: d :: rest => return if d.isDigit then rest.dropWhile Char.isDigit else cs
  | cs => return cs

def skipHourMinute? (cs : List Char) : Option (List Char) := do
  let (_, cs) ← readFixed? 2 0 23 cs
  let cs ← skipChar? ':' cs
  let (_, cs) ← readFixed? 2 0 59 cs
  return cs

def skipOffset : List Char → List Char
  | 'Z' :: cs => cs
  | 'z' :: cs => cs
  | '+' :: cs => (skipHourMinute? cs).getD ('+' :: cs)
  | '-' :: cs => (skipHourMinute? cs).getD ('-' :: cs)
  | cs => cs

def skipTimeOfDate (cs : List Char) : List Char :=
  match cs with
  | c :: rest =>
    if c == 'T' || c == 't' || c == ' ' then ((skipTime? rest).map skipOffset).getD cs else cs
  | [] => []

def readDatetime? (cs : List Char) : Option (Toml × List Char) :=
  match skipDate? cs with
  | some rest => some (.datetime, skipTimeOfDate rest)
  | none => (skipTime? cs).map fun rest => (.datetime, rest)

def readNumber? (cs : List Char) : Option (Toml × List Char) :=
  readDatetime? cs <|> readFloat? cs <|> readSpecialFloat? cs <|> readInteger? cs

end MergeNotes.Toml
