import MergeNotes.Event
import MergeNotes.Json.Reader
import MergeNotes.Mismatch

namespace MergeNotes.Payload

/-- A number that fits no 64 bits, or is written with a point or an exponent, is a floating point
number if a double comes near it. -/
def foundNumber? (value : Decimal) (plain : Bool) : Option Found :=
  match Json.integer? value plain with
  | some n => some (.integer n)
  | none => if Json.isFinite value then some .floatingPoint else none

def found? : Json → Option Found
  | .null => some .null
  | .bool b => some (.boolean b)
  | .number value plain => foundNumber? value plain
  | .string points => (Json.text? points).map .text
  | .array _ _ => some .sequence
  | .object _ _ => some .map
  | .broken => none

def wrongType (v : Json) (expected : String) : Misread :=
  match found? v with
  | some found => .mismatch (.invalidType found expected)
  | none => .malformed

def readPoints (points : List Nat) : Except Misread String :=
  match Json.text? points with
  | some s => .ok s
  | none => .error .malformed

def readText : Json → Except Misread String
  | .string points => readPoints points
  | v => .error (wrongType v "a string")

def readBool : Json → Except Misread Bool
  | .bool b => .ok b
  | v => .error (wrongType v "a boolean")

def readNumber : Json → Except Misread UInt64
  | .number value plain =>
    match Json.integer? value plain with
    | some n =>
      if 0 ≤ n then .ok (.ofNat n.toNat)
      else .error (.mismatch (.invalidValue (.integer n) "u64"))
    | none => .error (wrongType (.number value plain) "u64")
  | v => .error (wrongType v "u64")

def readOption (read : Json → Except Misread α) : Json → Except Misread (Option α)
  | .null => .ok none
  | v => (read v).map some

/-- A member of a record and what its value does to what has been read. -/
structure Member (σ : Type) where
  name : String
  read : Json → σ → Except Misread σ

def readMembers (members : List (Member σ)) (seen : List String) (s : σ) :
    List (List Nat × Json) → Except Misread σ
  | [] => .ok s
  | (key, v) :: rest => do
    let name ← readPoints key
    match members.find? (·.name = name) with
    | some m =>
      if name ∈ seen then .error (.mismatch (.duplicateField name))
      else readMembers members (name :: seen) (← m.read v s) rest
    | none => if v.isWhole then readMembers members seen s rest else .error .malformed

/-- Reads the items of an array of members; `tooShort` names an array without the next one. -/
def readItems (tooShort : Nat → Mismatch) (closed : Bool) (position : Nat) (s : σ) :
    List (Member σ) → List Json → Except Misread σ
  | [], [] => if closed then .ok s else .error .malformed
  | [], _ :: _ => .error .malformed
  | _ :: _, [] => .error (if closed then .mismatch (tooShort position) else .malformed)
  | m :: ms, v :: vs => do
    readItems tooShort closed (position + 1) (← m.read v s) ms vs

/-- A record from its members; `finish` complains of the first one that must be there and is not.
Members that are not asked for are skipped, and what is asked for is given once at most. A record
may also be an array of its values in order. -/
def readRecord (what : String) (members : List (Member σ)) (start : σ)
    (finish : σ → Except Misread α) : Json → Except Misread α
  | .object pairs closed => do
    let s ← readMembers members [] start pairs
    if closed then finish s else .error .malformed
  | .array items closed => do
    let tooShort n := .invalidLength n (Mismatch.recordOf what members.length)
    finish (← readItems tooShort closed 0 start members items)
  | v => .error (wrongType v what)

def required (name : String) : Option α → Except Misread α
  | some a => .ok a
  | none => .error (.mismatch (.missingField name))

def readBase : Json → Except Misread String :=
  readRecord "struct GitHubRef" [⟨"ref", fun v _ => some <$> readText v⟩] none (required "ref")

structure PullRequest where
  number : Option UInt64 := none
  title : Option String := none
  body : Option String := none
  merged : Option Bool := none
  base : String

structure PullRequestDraft where
  number : Option UInt64 := none
  title : Option String := none
  body : Option String := none
  merged : Option Bool := none
  base : Option String := none

def pullRequestMembers : List (Member PullRequestDraft) := [
  ⟨"number", fun v s => return { s with number := ← readOption readNumber v }⟩,
  ⟨"title", fun v s => return { s with title := ← readOption readText v }⟩,
  ⟨"body", fun v s => return { s with body := ← readOption readText v }⟩,
  ⟨"merged", fun v s => return { s with merged := ← readOption readBool v }⟩,
  ⟨"base", fun v s => return { s with base := some (← readBase v) }⟩]

def PullRequestDraft.finish (d : PullRequestDraft) : Except Misread PullRequest :=
  return ⟨d.number, d.title, d.body, d.merged, ← required "base" d.base⟩

def readPullRequest : Json → Except Misread PullRequest :=
  readRecord "struct GitHubPullRequest" pullRequestMembers {} PullRequestDraft.finish

structure Draft where
  action : Option String := none
  number : Option UInt64 := none
  pullRequest : Option PullRequest := none

def members : List (Member Draft) := [
  ⟨"action", fun v s => return { s with action := ← readOption readText v }⟩,
  ⟨"number", fun v s => return { s with number := ← readOption readNumber v }⟩,
  ⟨"pull_request", fun v s => return { s with pullRequest := some (← readPullRequest v) }⟩]

/-- The event of a payload; a number of the pull request itself wins. -/
def Draft.finish (d : Draft) : Except Misread Event := do
  let pr ← required "pull_request" d.pullRequest
  return {
    action := d.action
    merged := pr.merged.getD false
    description := pr.body
    targetBranch := Text.trim pr.base
    number := pr.number <|> d.number
    title := pr.title }

def read : Json → Except Misread Event := readRecord "struct GitHubPayload" members {} Draft.finish

end MergeNotes.Payload

/-- The event of a payload text, which may still lack a target branch. -/
def MergeNotes.Event.ofPayload (text : String) : Except MergeNotes.Misread MergeNotes.Event :=
  match MergeNotes.Json.ofText text.toList with
  | (v, ended) => do
    let event ← MergeNotes.Payload.read v
    if ended then return event else .error .malformed
