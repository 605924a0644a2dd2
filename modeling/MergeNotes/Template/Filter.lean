import MergeNotes.Chars.CaseMap
import MergeNotes.Template.Value

namespace MergeNotes.Template

def textOf (v : Value) : Except Error (List Char) := v.defined.map Value.display

def onText (f : List Char → List Char) : List Value → Except Error Value
  | [] => .error .missingArgument
  | [v] => do return .text (f (← textOf v))
  | _ => .error .tooManyArguments

/-- Trims the characters of the second argument, or blank ones if it is null or undefined. -/
def trimFilter : List Value → Except Error Value
  | [v, chars] => do
    let cs ← textOf v
    if chars = .null || chars.isUndefined then return .text (Chars.trim cs)
    else return .text (Chars.trimBy (chars.display.contains ·) cs)
  | args => onText Chars.trim args

def lengthFilter : List Value → Except Error Value
  | [] => .error .missingArgument
  | [.text cs] => .ok (.int cs.length)
  | [.emptyList] => .ok (.int 0)
  | [_] => .error .invalidOperation
  | _ => .error .tooManyArguments

def replaceFilter : List Value → Except Error Value
  | [v, old, new] => do
    return .text (Chars.replaceAll (← textOf old) (← textOf new) (← textOf v))
  | _ :: _ :: _ :: _ => .error .tooManyArguments
  | _ => .error .missingArgument

/-- An undefined value gives way, and with a true second argument every value that is not true. -/
def defaultFilter : List Value → Except Error Value
  | [] => .error .missingArgument
  | [v] => .ok (if v.isUndefined then .text [] else v)
  | [v, other] => .ok (if v.isUndefined then other else v)
  | [v, other, lax] => do
    let lax ← lax.truth
    return if v.isUndefined || (lax && !v.isTrue) then other else v
  | _ => .error .tooManyArguments

/-- Applies a filter to a value and the arguments after it. There are filters for texts and for
missing values; any other name, also one that a full template language has (`join`, `first`,
`round`, ...), is unknown here and an error. -/
def applyFilter (name : String) (args : List Value) : Except Error Value :=
  match name with
  | "upper" => onText Chars.upper args
  | "lower" => onText Chars.lower args
  | "trim" => trimFilter args
  | "length" => lengthFilter args
  | "count" => lengthFilter args
  | "replace" => replaceFilter args
  | "default" => defaultFilter args
  | "d" => defaultFilter args
  | _ => .error .unknownFilter

def onValue (p : Value → Bool) : List Value → Except Error Bool
  | [] => .error .missingArgument
  | [v] => .ok (p v)
  | _ => .error .tooManyArguments

def isParity (remainder : Int) (v : Value) : Bool := v.operand?.any (· % 2 = remainder)

def isText : Value → Bool
  | .text _ => true
  | _ => false

def isInt : Value → Bool
  | .int _ => true
  | _ => false

/-- Asks a test about a value with the arguments after it. There are tests of presence, parity and
type; any other name, also one that a full template language has (`eq`, `in`, `sequence`, ...), is
unknown here and an error. -/
def applyTest (name : String) (args : List Value) : Except Error Bool :=
  match name with
  | "defined" => onValue (!·.isUndefined) args
  | "undefined" => onValue Value.isUndefined args
  | "none" => onValue (· = .null) args
  | "odd" => onValue (isParity 1) args
  | "even" => onValue (isParity 0) args
  | "string" => onValue isText args
  | "number" => onValue isInt args
  | "integer" => onValue isInt args
  | "true" => onValue (· = .bool true) args
  | "false" => onValue (· = .bool false) args
  | _ => .error .unknownTest

end MergeNotes.Template
