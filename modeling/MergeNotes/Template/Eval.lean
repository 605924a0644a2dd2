import MergeNotes.Template.Filter
import MergeNotes.Template.Syntax

namespace MergeNotes.Template

/-- Values of names, the innermost scope first. -/
structure Scopes where
  inner : List (List (String × Value))
  outer : List (String × Value)

namespace Scopes

def lookup (s : Scopes) (name : String) : Value :=
  ((s.inner.findSome? (·.lookup name)) <|> s.outer.lookup name).getD .undefined

def isBound (s : Scopes) (name : String) : Bool :=
  ((s.inner.findSome? (·.lookup name)) <|> s.outer.lookup name).isSome

def assign (s : Scopes) (name : String) (v : Value) : Scopes :=
  match s.inner with
  | scope :: rest => { s with inner := ((name, v) :: scope) :: rest }
  | [] => { s with outer := (name, v) :: s.outer }

def enter (s : Scopes) : Scopes := { s with inner := [] :: s.inner }

end Scopes

/-- Whether a comparison of two values holds, both of which must be defined. -/
def Comparison.holds (c : Comparison) (a b : Value) : Except Error Bool := do
  let a ← a.defined
  let b ← b.defined
  match c with
  | equal => return a.equal b
  | notEqual => return !(a.equal b)
  | less => return a.less b
  | lessOrEqual => return !(b.less a)
  | greater => return b.less a
  | greaterOrEqual => return !(a.less b)
  | isIn => a.containedIn b
  | isNotIn => return !(← a.containedIn b)

def Operator.apply : Operator → Value → Value → Except Error Value
  | add, a, b => a.add b
  | sub, a, b => a.sub b
  | concat, a, b => do return .text ((← a.defined).display ++ (← b.defined).display)
  | mul, a, b => a.mul b
  | quotient, a, b => a.quotient b
  | remainder, a, b => a.remainder b

/-- The value of an expression of literals and operators alone. A conjunction of them that does not
hold is false, whichever operand is not true. -/
def Expr.constant? : Expr → Option Value
  | .literal v => some v
  | .not e => e.constant?.map fun v => .bool !v.isTrue
  | .negate e => e.constant?.bind fun v => v.negate.toOption
  | .and a b => do
    let v ← a.constant?
    let w ← b.constant?
    return if v.isTrue && w.isTrue then w else .bool false
  | .or a b => do
    let v ← a.constant?
    let w ← b.constant?
    return if v.isTrue then v else w
  | .compare a (.one c b) => do
    let v ← a.constant?
    let w ← b.constant?
    return .bool (← (c.holds v w).toOption)
  | .binary op a b => do
    let v ← a.constant?
    let w ← b.constant?
    (op.apply v w).toOption
  | _ => none

mutual

def Expr.eval (s : Scopes) : Expr → Except Error Value
  | .literal v => .ok v
  | .reference name => .ok (s.lookup name)
  | .not e => do return .bool !(← (← e.eval s).truth)
  | .negate e => do (← e.eval s).negate
  | .and a b =>
    match (Expr.and a b).constant? with
    | some v => .ok v
    | none => do
      let v ← a.eval s
      if ← v.truth then b.eval s else return v
  | .or a b => do
    let v ← a.eval s
    if ← v.truth then return v else b.eval s
  | .compare first rest => do return .bool (← rest.hold s (← first.eval s))
  | .binary op a b => do op.apply (← a.eval s) (← b.eval s)
  | .conditional condition whenTrue otherwise => do
    if ← (← condition.eval s).truth then whenTrue.eval s else evalOr .absent s otherwise
  | .member e => do (← e.eval s).member
  | .item e key => do
    let v ← e.eval s
    Value.item (← key.eval s) v
  | .slice e start stop step => do
    let v ← e.eval s
    let start ← evalOr .null s start
    let stop ← evalOr .null s stop
    let step ← evalOr .null s step
    Value.slice start stop step v
  | .filter name e args => do
    let v ← e.eval s
    applyFilter name (v :: (← evalAll s args))
  | .test name e args => do
    let v ← e.eval s
    return .bool (← applyTest name (v :: (← evalAll s args)))
  | .call function args => do
    let _ ← evalAll s args
    .error (if s.isBound function then .invalidOperation else .unknownFunction)
  | .callMember e args => do
    let _ ← e.eval s
    let _ ← evalAll s args
    .error .unknownMethod
  | .callValue e args => do
    let _ ← e.eval s
    let _ ← evalAll s args
    .error .invalidOperation

/-- Whether comparisons hold that start at a value; those after one that does not are not looked
at. -/
def Comparisons.hold (s : Scopes) (v : Value) : Comparisons → Except Error Bool
  | .one c e => do c.holds v (← e.eval s)
  | .more c e rest => do
    let w ← e.eval s
    if ← c.holds v w then rest.hold s w else return false

def evalAll (s : Scopes) : List Expr → Except Error (List Value)
  | [] => .ok []
  | e :: es => do return (← e.eval s) :: (← evalAll s es)

def evalOr (missing : Value) (s : Scopes) : Option Expr → Except Error Value
  | none => .ok missing
  | some e => e.eval s

end

/-- The scopes after a value is assigned. Only an empty list has items to assign, and parts of
values are never assigned. -/
def Target.assign (s : Scopes) (v : Value) : Target → Except Error Scopes
  | .name n => .ok (s.assign n v)
  | .member e => do
    let _ ← e.eval s
    .error .invalidOperation
  | .several targets => if v = .emptyList ∧ targets.isEmpty then .ok s else .error .cannotUnpack

def selected (s : Scopes) (target : Target) (condition : Option Expr) (vs : List Value) :
    Except Error (List Value) :=
  match condition with
  | none => .ok vs
  | some e => vs.filterM fun v => do (← e.eval (← target.assign s.enter v)).truth

def filtered (s : Scopes) (v : Value) : List (String × List Expr) → Except Error Value
  | [] => .ok v
  | (name, args) :: filters => do
    filtered s (← applyFilter name (v :: (← evalAll s args))) filters

mutual

/-- What a part prints, and the scopes after it; each round of a loop has a scope of its own. -/
def Part.run (s : Scopes) : Part → Except Error (List Char × Scopes)
  | .text cs => .ok (cs, s)
  | .output e => do return (← (← e.eval s).print, s)
  | .branch condition whenTrue otherwise => do
    if ← (← condition.eval s).truth then runAll s whenTrue else runAll s otherwise
  | .loop target elements condition body otherwise => do
    let vs ← selected s target condition (← (← elements.eval s).elements)
    if vs.isEmpty then runAll s otherwise
    else
      let rounds ← vs.mapM fun v => do runAll (← target.assign s.enter v) body
      return (rounds.flatMap Prod.fst, s)
  | .assign target e => do return ([], ← target.assign s (← e.eval s))
  | .capture target filters body => do
    let (cs, s) ← runAll s body
    return ([], ← target.assign s (← filtered s (.text cs) filters))
  | .inclusion name ignoreMissing => do
    match ← name.eval s with
    | .text _ => if ignoreMissing then return ([], s) else .error .notFound
    | .undefined => .error .undefinedValue
    | _ => .error .invalidOperation

def runAll (s : Scopes) : List Part → Except Error (List Char × Scopes)
  | [] => .ok ([], s)
  | p :: ps => do
    let (cs, s) ← p.run s
    let (cs', s) ← runAll s ps
    return (cs ++ cs', s)

end

end MergeNotes.Template
