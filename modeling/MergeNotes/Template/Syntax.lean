import MergeNotes.Template.Value

namespace MergeNotes.Template

inductive Comparison where
  | equal
  | notEqual
  | less
  | lessOrEqual
  | greater
  | greaterOrEqual
  | isIn
  | isNotIn
  deriving DecidableEq, Repr

inductive Operator where
  | add
  | sub
  | concat
  | mul
  | quotient
  | remainder
  deriving DecidableEq, Repr

mutual

inductive Expr where
  | literal (v : Value)
  | reference (name : String)
  | not (e : Expr)
  | negate (e : Expr)
  | and (a b : Expr)
  | or (a b : Expr)
  | compare (first : Expr) (rest : Comparisons)
  | binary (op : Operator) (a b : Expr)
  | conditional (condition whenTrue : Expr) (otherwise : Option Expr)
  | member (e : Expr)
  | item (e key : Expr)
  | slice (e : Expr) (start stop step : Option Expr)
  | filter (name : String) (e : Expr) (args : List Expr)
  | test (name : String) (e : Expr) (args : List Expr)
  | call (function : String) (args : List Expr)
  | callMember (e : Expr) (args : List Expr)
  | callValue (e : Expr) (args : List Expr)

/-- What a value is compared with; of several comparisons each starts at the end of the one before
it, and all have to hold. -/
inductive Comparisons where
  | one (c : Comparison) (e : Expr)
  | more (c : Comparison) (e : Expr) (rest : Comparisons)

end

inductive Target where
  | name (s : String)
  | member (e : Expr)
  /-- As many targets as the value has items. -/
  | several (targets : List Target)

inductive Part where
  | text (cs : List Char)
  | output (e : Expr)
  | branch (condition : Expr) (whenTrue otherwise : List Part)
  | loop (target : Target) (elements : Expr) (condition : Option Expr) (body otherwise : List Part)
  | assign (target : Target) (e : Expr)
  /-- Assigns what its body prints, after filters with their arguments. -/
  | capture (target : Target) (filters : List (String × List Expr)) (body : List Part)
  | inclusion (name : Expr) (ignoreMissing : Bool)

end MergeNotes.Template
