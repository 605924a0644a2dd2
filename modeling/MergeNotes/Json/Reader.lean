import MergeNotes.Json

namespace MergeNotes.Json

def isSpace (c : Char) : Bool := c == ' ' || c == '\t' || c == '\n' || c == '\r'

def skipSpace (cs : List Char) : List Char := cs.dropWhile isSpace

def escape? : Char → Option Nat
  | '"' => some 0x22
  | '\\' => some 0x5C
  | '/' => some 0x2F
  | 'b' => some 0x08
  | 'f' => some 0x0C
  | 'n' => some 0x0A
  | 'r' => some 0x0D
  | 't' => some 0x09
  | _ => none

def readString? : List Char → Option (List Nat × List Char)
  | [] => none
  | '"' :: cs => some ([], cs)
  | '\\' :: 'u' :: a :: b :: c :: d :: cs => do
    let p ← Decimal.ofHex? [a, b, c, d]
    let (ps, rest) ← readString? cs
    return (p :: ps, rest)
  | '\\' :: e :: cs => do
    let p ← escape? e
    let (ps, rest) ← readString? cs
    return (p :: ps, rest)
  | c :: cs =>
    if c.toNat < 0x20 || c == '\\' then none
    else do
      let (ps, rest) ← readString? cs
      return (c.toNat :: ps, rest)

def readDigits? (cs : List Char) : Option (List Char × List Char) :=
  let digits := cs.takeWhile Char.isDigit
  if digits.isEmpty then none else some (digits, cs.dropWhile Char.isDigit)

/-- A whole part has no zero before its other digits. -/
def readWhole? (cs : List Char) : Option (List Char × List Char) := do
  let (digits, rest) ← readDigits? cs
  if digits.head? == some '0' && digits.length != 1 then none else return (digits, rest)

def readFraction? : List Char → Option (List Char × List Char)
  | '.' :: cs => readDigits? cs
  | cs => some ([], cs)

def readExponent? : List Char → Option (Int × List Char)
  | '-' :: cs => (readDigits? cs).map fun (ds, rest) => (-(Decimal.natOf ds : Int), rest)
  | '+' :: cs => (readDigits? cs).map fun (ds, rest) => ((Decimal.natOf ds : Int), rest)
  | cs => (readDigits? cs).map fun (ds, rest) => ((Decimal.natOf ds : Int), rest)

def readScale? : List Char → Option (Option Int × List Char)
  | 'e' :: cs => (readExponent? cs).map fun (e, rest) => (some e, rest)
  | 'E' :: cs => (readExponent? cs).map fun (e, rest) => (some e, rest)
  | cs => some (none, cs)

/-- Adds digits to a number as long as it fits in 64 bits, and leaves the others. -/
def gather (n : Nat) : List Char → Nat × List Char
  | [] => (n, [])
  | d :: ds =>
    let m := n * 10 + Decimal.natOf [d]
    if m < UInt64.size then gather m ds else (n, d :: ds)

/-- Of digits that are too many for 64 bits, those of the whole part count as zeros and those of the
fraction do not count. -/
def readUnsigned? (negative : Bool) (cs : List Char) : Option ((Decimal × Bool) × List Char) := do
  let (whole, cs) ← readWhole? cs
  let (fraction, cs) ← readFraction? cs
  let (scale, cs) ← readScale? cs
  let (mantissa, zeros) := gather 0 whole
  let (mantissa, left) := gather mantissa fraction
  let exponent := scale.getD 0 + zeros.length - (fraction.length - left.length)
  return ((⟨negative, mantissa, exponent⟩, fraction.isEmpty && scale.isNone), cs)

def readNumber? : List Char → Option ((Decimal × Bool) × List Char)
  | '-' :: cs => readUnsigned? true cs
  | cs => readUnsigned? false cs

mutual

/-- A value and the text after it, or nothing in place of that if the text broke inside the value.
Each nesting of a value takes two steps of `fuel`. -/
def readValue (fuel : Nat) (cs : List Char) : Json × Option (List Char) :=
  match fuel with
  | 0 => (broken, none)
  | fuel + 1 =>
    match skipSpace cs with
    | 'n' :: 'u' :: 'l' :: 'l' :: cs => (null, some cs)
    | 't' :: 'r' :: 'u' :: 'e' :: cs => (bool true, some cs)
    | 'f' :: 'a' :: 'l' :: 's' :: 'e' :: cs => (bool false, some cs)
    | '"' :: cs =>
      match readString? cs with
      | some (points, cs) => (string points, some cs)
      | none => (broken, none)
    | '[' :: cs =>
      match skipSpace cs with
      | ']' :: cs => (array [] true, some cs)
      | cs =>
        let (items, rest) := readItems fuel cs
        (array items rest.isSome, rest)
    | '{' :: cs =>
      match skipSpace cs with
      | '}' :: cs => (object [] true, some cs)
      | cs =>
        let (members, rest) := readMembers fuel cs
        (object members rest.isSome, rest)
    | cs =>
      match readNumber? cs with
      | some ((value, plain), cs) => (number value plain, some cs)
      | none => (broken, none)

def readItems (fuel : Nat) (cs : List Char) : List Json × Option (List Char) :=
  match fuel with
  | 0 => ([broken], none)
  | fuel + 1 =>
    match readValue fuel cs with
    | (v, none) => ([v], none)
    | (v, some cs) =>
      match skipSpace cs with
      | ',' :: cs =>
        let (vs, rest) := readItems fuel cs
        (v :: vs, rest)
      | ']' :: cs => ([v], some cs)
      | _ => ([v], none)

def readMembers (fuel : Nat) (cs : List Char) : List (List Nat × Json) × Option (List Char) :=
  match fuel with
  | 0 => ([], none)
  | fuel + 1 =>
    match skipSpace cs with
    | '"' :: cs =>
      match readString? cs with
      | none => ([], none)
      | some (key, cs) =>
        match skipSpace cs with
        | ':' :: cs =>
          match readValue fuel cs with
          | (v, none) => ([(key, v)], none)
          | (v, some cs) =>
            match skipSpace cs with
            | ',' :: cs =>
              let (ms, rest) := readMembers fuel cs
              ((key, v) :: ms, rest)
            | '}' :: cs => ([(key, v)], some cs)
            | _ => ([(key, v)], none)
        | _ => ([(key, broken)], none)
    | _ => ([], none)

end

/-- The value that a text starts with, and whether only space follows it. -/
def ofText (text : List Char) : Json × Bool :=
  match readValue (2 * text.length + 2) text with
  | (v, some rest) => (v, (skipSpace rest).isEmpty)
  | (v, none) => (v, false)

end MergeNotes.Json
