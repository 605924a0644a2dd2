import MergeNotes.Chars.Blank
import MergeNotes.Chars.Search

namespace MergeNotes.Template

inductive Error where
  | malformed
  | undefinedValue
  | invalidOperation
  | unknownFilter
  | unknownTest
  | unknownFunction
  | unknownMethod
  | missingArgument
  | tooManyArguments
  | badEscape
  | notFound
  | cannotUnpack
  /-- A commit message came out blank. -/
  | blankMessage
  deriving DecidableEq, Repr

def Error.message : Error → String
  | malformed => "syntax error"
  | undefinedValue => "undefined value"
  | invalidOperation => "invalid operation"
  | unknownFilter => "unknown filter"
  | unknownTest => "unknown test"
  | unknownFunction => "unknown function"
  | unknownMethod => "unknown method"
  | missingArgument => "missing argument"
  | tooManyArguments => "too many arguments"
  | badEscape => "bad string escape"
  | notFound => "template not found"
  | cannotUnpack => "cannot unpack"
  | blankMessage => "rendered an empty message"

/-- A name that stands for nothing is undefined, and so is a missing part of a value; asking an
undefined value for anything but whether it is defined is an error. -/
inductive Value where
  | undefined
  /-- The value of a conditional that does not hold and has no alternative; it is undefined, and
  counts as the empty text wherever a text is wanted. -/
  | absent
  | null
  | bool (b : Bool)
  | int (n : Int)
  | text (cs : List Char)
  /-- A list without items, which is what a stretch of null is. -/
  | emptyList
  deriving DecidableEq, Repr

namespace Value

def isUndefined : Value → Bool
  | undefined => true
  | absent => true
  | _ => false

def defined : Value → Except Error Value
  | undefined => .error .undefinedValue
  | v => .ok v

def display : Value → List Char
  | undefined => []
  | absent => []
  | null => "None".toList
  | bool true => "True".toList
  | bool false => "False".toList
  | int n => (toString n).toList
  | text cs => cs
  | emptyList => "[]".toList

def print (v : Value) : Except Error (List Char) := v.defined.map display

/-- Whether a value that is defined counts as true: zero, the empty text, the empty list and null do
not. -/
def isTrue : Value → Bool
  | bool b => b
  | int n => n ≠ 0
  | text cs => !cs.isEmpty
  | _ => false

def truth (v : Value) : Except Error Bool := v.defined.map isTrue

/-- The number of a value; truth values count as one and zero. -/
def number? : Value → Option Int
  | bool b => some (if b then 1 else 0)
  | int n => some n
  | _ => none

def equal (a b : Value) : Bool :=
  match a.number?, b.number? with
  | some m, some n => m == n
  | _, _ => if a.isUndefined then b.isUndefined else a == b

def rank : Value → Nat
  | undefined => 0
  | absent => 0
  | null => 1
  | bool _ => 2
  | int _ => 3
  | text _ => 4
  | emptyList => 5

/-- Kinds are ordered first; texts by their code points. -/
def less (a b : Value) : Bool :=
  if a.rank ≠ b.rank then a.rank < b.rank
  else match a, b with
    | text s, text t => s < t
    | a, b =>
      match a.number?, b.number? with
      | some m, some n => m < n
      | _, _ => false

/-- Integers that are written have up to 128 bits. -/
def literalBound : Nat := Nat.pow 2 128

/-- Integers that are computed with have 128 bits with a sign. -/
def integerBound : Nat := Nat.pow 2 127

def isComputable (n : Int) : Bool := -integerBound ≤ n && n < integerBound

def ofInt? (n : Int) : Except Error Value :=
  if isComputable n then .ok (int n) else .error .invalidOperation

def operand? (v : Value) : Option Int := v.number?.filter isComputable

def arithmetic (f : Int → Int → Except Error Int) (a b : Value) : Except Error Value :=
  match a.operand?, b.operand? with
  | some m, some n => (f m n).bind ofInt?
  | _, _ => .error .invalidOperation

def add : Value → Value → Except Error Value
  | text s, text t => .ok (text (s ++ t))
  | emptyList, emptyList => .ok emptyList
  | a, b => arithmetic (fun m n => .ok (m + n)) a b

def sub : Value → Value → Except Error Value := arithmetic fun m n => .ok (m - n)

def count? (v : Value) : Option Nat :=
  v.number?.bind fun n => if 0 ≤ n ∧ n < UInt64.size then some n.toNat else none

/-- Bytes of the longest text that is made by repetition. -/
def maxRepeatedBytes : Nat := 100000000

def copiesBefore (cs : List Char) : Nat → List Char → List Char
  | 0, rest => rest
  | n + 1, rest => copiesBefore cs n (cs ++ rest)

def repeated (cs : List Char) (times : Nat) : Except Error Value :=
  if cs.isEmpty then .ok (text [])
  else if (String.ofList cs).utf8ByteSize * times ≤ maxRepeatedBytes then
    .ok (text (copiesBefore cs times []))
  else .error .invalidOperation

def copies (v times : Value) : Except Error Value :=
  match v, times.count? with
  | text cs, some n => repeated cs n
  | emptyList, some _ => .ok emptyList
  | _, _ => .error .invalidOperation

def mul : Value → Value → Except Error Value
  | text s, v => copies (text s) v
  | v, text s => copies (text s) v
  | emptyList, v => copies emptyList v
  | v, emptyList => copies emptyList v
  | a, b => arithmetic (fun m n => .ok (m * n)) a b

/-- Quotient and remainder with a remainder that is never negative. -/
def quotient : Value → Value → Except Error Value :=
  arithmetic fun m n => if n = 0 then .error .invalidOperation else .ok (m / n)

def remainder : Value → Value → Except Error Value :=
  arithmetic fun m n => if n = 0 then .error .invalidOperation else .ok (m % n)

/-- The least written number that is too large to compute with is its own negation. -/
def negate : Value → Except Error Value
  | int n =>
    if n = integerBound then .ok (int n)
    else if isComputable n then ofInt? (-n)
    else .error .invalidOperation
  | _ => .error .invalidOperation

/-- Whether a text holds the display of a value; the empty list holds nothing. -/
def containedIn (v : Value) : Value → Except Error Bool
  | undefined => .error .undefinedValue
  | absent => .ok false
  | text cs => .ok (Chars.occursIn v.display cs)
  | emptyList => .ok false
  | _ => .error .invalidOperation

/-- No value has named parts. -/
def member : Value → Except Error Value
  | undefined => .error .undefinedValue
  | absent => .error .undefinedValue
  | _ => .ok undefined

/-- A position counted from the end if it is negative. -/
def position? (size : Nat) (n : Int) : Option Nat :=
  let i := if n < 0 then n + size else n
  if 0 ≤ i ∧ i < size then some i.toNat else none

def item (key : Value) : Value → Except Error Value
  | undefined => .error .undefinedValue
  | absent => .error .undefinedValue
  | text cs =>
    match key.number? with
    | some n => .ok ((((position? cs.length n).bind (cs[·]?)).map fun c => text [c]).getD undefined)
    | none => .ok undefined
  | _ => .ok undefined

def everyNth (step : Nat) : Nat → List Char → List Char
  | _, [] => []
  | 0, c :: cs => c :: everyNth step (step - 1) cs
  | n + 1, _ :: cs => everyNth step n cs

/-- Bounds of slices have 64 bits with a sign. -/
def boundBound : Nat := Nat.pow 2 63

/-- A bound of a slice: none if it is left out. -/
def bound? : Value → Except Error (Option Int)
  | null => .ok none
  | v => match v.number? with
    | some n => if -boundBound ≤ n ∧ n < boundBound then .ok (some n) else .error .invalidOperation
    | none => .error .invalidOperation

/-- The place that a bound means in a text; one before its start is the start. -/
def place (size : Nat) (n : Int) : Nat := (if n < 0 then n + size else n).toNat

def forward (cs : List Char) (start stop : Option Int) (step : Nat) : List Char :=
  let first := (start.map (place cs.length)).getD 0
  let last := (stop.map (place cs.length)).getD cs.length
  everyNth step 0 ((cs.take last).drop first)

/-- Every `step`th character from `start` down to the one after `stop`, or to the first if that is
zero. -/
def backward (cs : List Char) (start stop : Option Int) (step : Nat) : List Char :=
  let first := min ((start.map (place cs.length)).getD (cs.length - 1)) (cs.length - 1)
  let last := (stop.map (place cs.length)).getD 0
  everyNth step 0 ((cs.take (first + 1)).drop (if last = 0 then 0 else last + 1)).reverse

/-- A stretch of a text or list; null has an empty one. -/
def slice (start stop step : Value) (v : Value) : Except Error Value := do
  if v.isUndefined then .error .undefinedValue else
  let start ← bound? start
  let stop ← bound? stop
  let step := (← bound? step).getD 1
  if step = 0 then .error .invalidOperation else
  match v with
  | text cs =>
    .ok (text (if 0 < step then forward cs start stop step.toNat
      else backward cs start stop step.natAbs))
  | null => .ok emptyList
  | emptyList => .ok emptyList
  | _ => .error .invalidOperation

/-- What a loop goes through: the characters of a text. -/
def elements : Value → Except Error (List Value)
  | undefined => .error .undefinedValue
  | text cs => .ok (cs.map fun c => text [c])
  | absent => .ok []
  | null => .ok []
  | emptyList => .ok []
  | _ => .error .invalidOperation

end Value
end MergeNotes.Template
