namespace MergeNotes.Bytes

/-- What a first byte announces: how many bytes follow, and the bounds of the next one. -/
def announced? (b : UInt8) : Option (Nat × UInt8 × UInt8) :=
  if 0xC2 ≤ b && b ≤ 0xDF then some (1, 0x80, 0xBF)
  else if b == 0xE0 then some (2, 0xA0, 0xBF)
  else if b == 0xED then some (2, 0x80, 0x9F)
  else if 0xE1 ≤ b && b ≤ 0xEF then some (2, 0x80, 0xBF)
  else if b == 0xF0 then some (3, 0x90, 0xBF)
  else if b == 0xF4 then some (3, 0x80, 0x8F)
  else if 0xF1 ≤ b && b ≤ 0xF3 then some (3, 0x80, 0xBF)
  else none

/-- The code point after so many more bytes, if they are all there, and how many fit. -/
def continued : Nat → UInt8 → UInt8 → Nat → List UInt8 → Option Nat × Nat
  | 0, _, _, n, _ => (some n, 0)
  | _ + 1, _, _, _, [] => (none, 0)
  | count + 1, low, high, n, b :: bs =>
    if low ≤ b && b ≤ high then
      let (point, used) := continued count 0x80 0xBF (n * 64 + b.toNat % 64) bs
      (point, used + 1)
    else (none, 0)

def replacement : Char := '\ufffd'

/-- The character that starts with `b`, and how many of the bytes after it are part of it. -/
def charAt (b : UInt8) (bs : List UInt8) : Char × Nat :=
  if b < 0x80 then (Char.ofNat b.toNat, 0)
  else match announced? b with
    | none => (replacement, 0)
    | some (count, low, high) =>
      let bits := b.toNat % Nat.pow 2 (6 - count)
      let (point, used) := continued count low high bits bs
      ((point.map Char.ofNat).getD replacement, used)

def toChars : List UInt8 → List Char
  | [] => []
  | b :: bs =>
    let (c, used) := charAt b bs
    c :: toChars (bs.drop used)
termination_by bs => bs.length

/-- The text of bytes. Where they are not UTF-8, every longest stretch that starts a character and
does not go on as one becomes one replacement character. -/
def toText (b : ByteArray) : String := String.ofList (toChars b.toList)

end MergeNotes.Bytes
