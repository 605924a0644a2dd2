import MergeNotes.Bytes.Octets
import MergeNotes.Chars.Search
import MergeNotes.Decimal

namespace MergeNotes.Git

/-- The name of a commit: forty hexadecimal digits. -/
abbrev Sha := String

def shaLength : Nat := 40

def readSha? (cs : Octets) : Option (Sha × Octets) :=
  let digits := cs.take shaLength
  if digits.length == shaLength && digits.all fun c => (Decimal.hexValue? c).isSome then
    some (String.ofList (digits.map Char.toLower), cs.drop shaLength)
  else none

inductive Reference.Fault where
  /-- It, or one that it stands for, does not exist. -/
  | missing
  | broken
  deriving DecidableEq

namespace Packed

open Reference (Fault)

/-- What stands before the next line feed and after it, with no zero byte before it. -/
def cutLine? (cs : Octets) : Option (Octets × Octets) :=
  match Chars.cutAt? ['\n'] cs with
  | some (line, rest) => if line.contains '\x00' then none else some (line, rest)
  | none => none

/-- Drops the comments at the top, each of which is a line that `cut?` takes off. -/
def dropComments? (cut? : Octets → Option (Octets × Octets)) : Nat → Octets → Option Octets
  | 0, cs => some cs
  | fuel + 1, cs =>
    if cs.head? == some '#' then (cut? cs).bind fun (_, rest) => dropComments? cut? fuel rest
    else some cs

def dropPeeled? (cs : Octets) : Option Octets :=
  match cs with
  | '^' :: rest =>
    match readSha? rest with
    | none => none
    | some (_, []) => some []
    | some (_, rest) => (cutLine? rest).map Prod.snd
  | _ => some cs

def readAll? : Nat → Octets → Option (List (Octets × Sha))
  | 0, _ => none
  | _, [] => some []
  | fuel + 1, cs => do
    let (sha, rest) ← readSha? cs
    let rest ← Chars.dropPrefix? [' '] rest
    let (name, rest) ← cutLine? rest
    let name := if name.getLast? == some '\r' then name.dropLast else name
    let rest ← dropPeeled? rest
    return (name, sha) :: (← readAll? fuel rest)

/-- Whether a file says of itself that it is sorted; none if it says so on a line without end. -/
def isSorted? (content : Octets) : Option Bool :=
  match Chars.dropPrefix? "# pack-refs with:".toList content with
  | none => some false
  | some rest => (Chars.cutAt? ['\n'] rest).map fun (traits, _) =>
      Chars.occursIn " sorted ".toList traits

/-- The position after the next line feed from `p` on that no tag's commit follows. -/
def endOfRecord (content : Array Char) (stop : Nat) : Nat → Nat → Nat
  | 0, _ => stop
  | fuel + 1, p =>
    if stop ≤ p then stop
    else if content[p]? == some '\n' && !(p + 1 < stop && content[p + 1]? == some '^') then p + 1
    else endOfRecord content stop fuel (p + 1)

/-- The start of the record that `p` is in, at `low` or behind it. -/
def startOfRecord (content : Array Char) (low : Nat) : Nat → Nat
  | 0 => low
  | p + 1 =>
    if p < low then low
    else if content[p]? == some '\n' && !(low < p && content[p + 1]? == some '^') then p + 1
    else startOfRecord content low p

def compareNames : Octets → Octets → Ordering
  | [], [] => .eq
  | [], _ => .lt
  | _, [] => .gt
  | a :: as, b :: bs => if a < b then .lt else if b < a then .gt else compareNames as bs

/-- How the record at the start of a text stands to a name; what is too short for a record comes
before every name. -/
def compareRecord (cs name : Octets) : Ordering :=
  if cs.length < shaLength + 3 then .lt
  else compareNames ((cs.drop (shaLength + 1)).takeWhile (· != '\n')) name

def recordSha? (cs : Octets) : Option Sha := do
  let (sha, _) ← readSha? cs
  let (_, rest) ← Chars.cutAt? ['\n'] (cs.drop (shaLength + 1))
  match rest with
  | '^' :: peeled => (readSha? peeled).map fun _ => sha
  | _ => some sha

def search (content : Array Char) (name : Octets) : Nat → Nat → Nat → Except Fault Sha
  | 0, _, _ => .error .missing
  | fuel + 1, low, high =>
    if high ≤ low then .error .missing
    else
      let middle := low + (high - low) / 2
      let start := startOfRecord content low middle
      let record := content.toList.drop start
      match compareRecord record name with
      | .lt => search content name fuel (endOfRecord content high content.size middle) high
      | .gt => search content name fuel low start
      | .eq => (recordSha? record).elim (.error .broken) .ok

def findSorted (content name : Octets) : Except Fault Sha :=
  match dropComments? (Chars.cutAt? ['\n']) content.length content with
  | none => .error .broken
  | some records => search records.toArray name (records.length + 1) 0 records.length

/-- Looks for a name in a file of any order; of two lines for it the last one counts. -/
def findUnsorted (content name : Octets) : Except Fault Sha :=
  match (dropComments? cutLine? content.length content).bind fun records =>
      readAll? (records.length + 1) records with
  | none => .error .broken
  | some entries => (entries.reverse.lookup name).elim (.error .missing) .ok

/-- The commit that a file gives for a name. A file that calls itself sorted is searched by halves
and otherwise not looked at; any other is read whole. -/
def find (content name : Octets) : Except Fault Sha :=
  match isSorted? content with
  | none => .error .broken
  | some true => findSorted content name
  | some false => findUnsorted content name

end Packed
end MergeNotes.Git
