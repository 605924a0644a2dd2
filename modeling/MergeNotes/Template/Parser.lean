import MergeNotes.Template.Syntax
import MergeNotes.Template.Token

namespace MergeNotes.Template.Parser

abbrev Reading (α : Type) := α × List Token

/-- Nested expressions and tags may not go deeper. -/
def depthLimit : Nat := 150

def refuse : List Token → Except Error α
  | .unreadable e :: _ => .error e
  | _ => .error .malformed

def skipName? (s : String) : List Token → Option (List Token)
  | .name t :: ts => if t = s then some ts else none
  | _ => none

def skipSymbol? (s : String) : List Token → Option (List Token)
  | .symbol t :: ts => if t = s then some ts else none
  | _ => none

def expect (t : Token) : List Token → Except Error (List Token)
  | u :: ts => if t = u then .ok ts else refuse (u :: ts)
  | [] => .error .malformed

def expectName (s : String) : List Token → Except Error (List Token) := expect (.name s)

def expectSymbol (s : String) : List Token → Except Error (List Token) := expect (.symbol s)

/-- Levels of binary operators, the loosest first. -/
inductive Level where
  | disjunction
  | conjunction
  | sum
  | concat
  | product
  deriving DecidableEq, Repr

def symbolComparison? : String → Option Comparison
  | "==" => some .equal
  | "!=" => some .notEqual
  | "<" => some .less
  | "<=" => some .lessOrEqual
  | ">" => some .greater
  | ">=" => some .greaterOrEqual
  | _ => none

def readComparison : List Token → Except Error (Reading (Option Comparison))
  | .name "in" :: ts => .ok (some .isIn, ts)
  | .name "not" :: ts => do return (some .isNotIn, ← expectName "in" ts)
  | .symbol s :: ts =>
    match symbolComparison? s with
    | some c => .ok (some c, ts)
    | none => .ok (none, .symbol s :: ts)
  | ts => .ok (none, ts)

def sum? : String → Option Operator
  | "+" => some .add
  | "-" => some .sub
  | _ => none

def concat? : String → Option Operator
  | "~" => some .concat
  | _ => none

def product? : String → Option Operator
  | "*" => some .mul
  | "//" => some .quotient
  | "%" => some .remainder
  | _ => none

def binary? (operator? : String → Option Operator) :
    List Token → Option ((Expr → Expr → Expr) × List Token)
  | .symbol s :: ts => (operator? s).map fun op => (.binary op, ts)
  | _ => none

def Level.operator? : Level → List Token → Option ((Expr → Expr → Expr) × List Token)
  | disjunction, ts => (skipName? "or" ts).map fun ts => (.or, ts)
  | conjunction, ts => (skipName? "and" ts).map fun ts => (.and, ts)
  | sum, ts => binary? sum? ts
  | concat, ts => binary? concat? ts
  | product, ts => binary? product? ts

def literal? : String → Option Value
  | "true" => some (.bool true)
  | "True" => some (.bool true)
  | "false" => some (.bool false)
  | "False" => some (.bool false)
  | "none" => some .null
  | "None" => some .null
  | _ => none

/-- Whether a token starts the argument of a test that has no parentheses. -/
def startsArgument : Token → Bool
  | .name s => !(["and", "or", "else", "is"].contains s)
  | .string _ => true
  | .int _ => true
  | .symbol s => s == "+" || s == "-" || s == "["
  | _ => false

def readStrings : List Token → List Char × List Token
  | .string s :: ts =>
    let (cs, rest) := readStrings ts
    (s ++ cs, rest)
  | ts => ([], ts)

mutual

/-- An expression, where each step takes `fuel`. -/
def parseExpr (fuel depth : Nat) (ts : List Token) : Except Error (Reading Expr) :=
  match fuel with
  | 0 => .error .malformed
  | fuel + 1 => if depth < depthLimit then parseChoice fuel (depth + 1) ts else .error .malformed

def parseChoice (fuel depth : Nat) (ts : List Token) : Except Error (Reading Expr) :=
  match fuel with
  | 0 => .error .malformed
  | fuel + 1 => do
    let (e, ts) ← parseLevel fuel depth .disjunction ts
    parseConditions fuel depth e ts

def parseConditions (fuel depth : Nat) (e : Expr) (ts : List Token) : Except Error (Reading Expr) :=
  match fuel with
  | 0 => .error .malformed
  | fuel + 1 =>
    match skipName? "if" ts with
    | none => .ok (e, ts)
    | some ts => do
      let (condition, ts) ← parseLevel fuel depth .disjunction ts
      match skipName? "else" ts with
      | none => parseConditions fuel depth (.conditional condition e none) ts
      | some ts => do
        let (otherwise, ts) ← parseChoice fuel depth ts
        parseConditions fuel depth (.conditional condition e (some otherwise)) ts

def parseLevel (fuel depth : Nat) (level : Level) (ts : List Token) : Except Error (Reading Expr) :=
  match fuel with
  | 0 => .error .malformed
  | fuel + 1 => do
    let (e, ts) ← parseOperand fuel depth level ts
    parseChain fuel depth level e ts

/-- Operators of one level apply from left to right. -/
def parseChain (fuel depth : Nat) (level : Level) (e : Expr) (ts : List Token) :
    Except Error (Reading Expr) :=
  match fuel with
  | 0 => .error .malformed
  | fuel + 1 =>
    match level.operator? ts with
    | none => .ok (e, ts)
    | some (combine, ts) => do
      let (e', ts) ← parseOperand fuel depth level ts
      parseChain fuel depth level (combine e e') ts

/-- An operand of a level is an expression of the next one; negation and then comparisons stand
between conjunctions and sums. -/
def parseOperand (fuel depth : Nat) (level : Level) (ts : List Token) :
    Except Error (Reading Expr) :=
  match fuel with
  | 0 => .error .malformed
  | fuel + 1 =>
    match level with
    | .disjunction => parseLevel fuel depth .conjunction ts
    | .conjunction => parseNegation fuel depth ts
    | .sum => parseLevel fuel depth .concat ts
    | .concat => parseLevel fuel depth .product ts
    | .product => do
      let (e, ts) ← parseUnary fuel depth ts
      let (e, ts) ← parsePostfix fuel depth e ts
      parseFilters fuel depth e ts

def parseNegation (fuel depth : Nat) (ts : List Token) : Except Error (Reading Expr) :=
  match fuel with
  | 0 => .error .malformed
  | fuel + 1 =>
    match skipName? "not" ts with
    | some ts => do
      let (e, ts) ← parseNegation fuel depth ts
      return (.not e, ts)
    | none => do
      let (e, ts) ← parseLevel fuel depth .sum ts
      let (rest, ts) ← parseComparisons fuel depth ts
      match rest with
      | some rest => return (.compare e rest, ts)
      | none => return (e, ts)

def parseComparisons (fuel depth : Nat) (ts : List Token) :
    Except Error (Reading (Option Comparisons)) :=
  match fuel with
  | 0 => .error .malformed
  | fuel + 1 => do
    let (c, ts) ← readComparison ts
    match c with
    | none => return (none, ts)
    | some c => do
      let (e, ts) ← parseLevel fuel depth .sum ts
      let (rest, ts) ← parseComparisons fuel depth ts
      match rest with
      | some rest => return (some (.more c e rest), ts)
      | none => return (some (.one c e), ts)

def parseUnary (fuel depth : Nat) (ts : List Token) : Except Error (Reading Expr) :=
  match fuel with
  | 0 => .error .malformed
  | fuel + 1 =>
    match skipSymbol? "-" ts with
    | some ts => do
      let (e, ts) ← parseUnary fuel depth ts
      return (.negate e, ts)
    | none => if depth < depthLimit then parsePrimary fuel (depth + 1) ts else .error .malformed

def parsePrimary (fuel depth : Nat) (ts : List Token) : Except Error (Reading Expr) :=
  match fuel with
  | 0 => .error .malformed
  | fuel + 1 =>
    match ts with
    | .name s :: ts =>
      match literal? s with
      | some v => .ok (.literal v, ts)
      | none => .ok (.reference s, ts)
    | .string s :: ts =>
      let (cs, ts) := readStrings ts
      .ok (.literal (.text (s ++ cs)), ts)
    | .int n :: ts => .ok (.literal (.int n), ts)
    | .symbol "(" :: ts => do
      let (e, ts) ← parseExpr fuel depth ts
      return (e, ← expectSymbol ")" ts)
    | ts => refuse ts

def parsePostfix (fuel depth : Nat) (e : Expr) (ts : List Token) : Except Error (Reading Expr) :=
  match fuel with
  | 0 => .error .malformed
  | fuel + 1 =>
    match ts with
    | .symbol "." :: .name _ :: ts => parsePostfix fuel depth (.member e) ts
    | .symbol "." :: ts => refuse ts
    | .symbol "[" :: ts => do
      let (e, ts) ← parseSubscript fuel depth e ts
      parsePostfix fuel depth e ts
    | .symbol "(" :: ts => do
      let (args, ts) ← parseArgs fuel depth ts
      let call := match e with
        | .reference f => .call f args
        | .member e => .callMember e args
        | e => .callValue e args
      parsePostfix fuel depth call ts
    | ts => .ok (e, ts)

/-- A bound of a slice, which may be left out. -/
def parseBound (fuel depth : Nat) (ts : List Token) : Except Error (Reading (Option Expr)) :=
  match fuel with
  | 0 => .error .malformed
  | fuel + 1 =>
    match ts with
    | .symbol ":" :: _ => .ok (none, ts)
    | .symbol "]" :: _ => .ok (none, ts)
    | ts => do
      let (e, ts) ← parseExpr fuel depth ts
      return (some e, ts)

def parseSubscript (fuel depth : Nat) (e : Expr) (ts : List Token) : Except Error (Reading Expr) :=
  match fuel with
  | 0 => .error .malformed
  | fuel + 1 => do
    let (start, rest) ← parseBound fuel depth ts
    match skipSymbol? ":" rest, start with
    | none, none => refuse rest
    | none, some key => return (.item e key, ← expectSymbol "]" rest)
    | some ts, start => do
      let (stop, ts) ← parseBound fuel depth ts
      match skipSymbol? ":" ts with
      | none => return (.slice e start stop none, ← expectSymbol "]" ts)
      | some ts => do
        let (step, ts) ← parseBound fuel depth ts
        return (.slice e start stop step, ← expectSymbol "]" ts)

def parseArgs (fuel depth : Nat) (ts : List Token) : Except Error (Reading (List Expr)) :=
  match fuel with
  | 0 => .error .malformed
  | fuel + 1 =>
    match skipSymbol? ")" ts with
    | some ts => .ok ([], ts)
    | none => do
      let (e, ts) ← parseExpr fuel depth ts
      match skipSymbol? "," ts with
      | some ts => do
        let (es, ts) ← parseArgs fuel depth ts
        return (e :: es, ts)
      | none => return ([e], ← expectSymbol ")" ts)

def parseFilters (fuel depth : Nat) (e : Expr) (ts : List Token) : Except Error (Reading Expr) :=
  match fuel with
  | 0 => .error .malformed
  | fuel + 1 =>
    match ts with
    | .symbol "|" :: .name f :: .symbol "(" :: ts => do
      let (args, ts) ← parseArgs fuel depth ts
      parseFilters fuel depth (.filter f e args) ts
    | .symbol "|" :: .name f :: ts => parseFilters fuel depth (.filter f e []) ts
    | .symbol "|" :: ts => refuse ts
    | .name "is" :: .name "not" :: .name t :: ts => do
      let (args, ts) ← parseTestArgs fuel depth ts
      parseFilters fuel depth (.not (.test t e args)) ts
    | .name "is" :: .name "not" :: ts => refuse ts
    | .name "is" :: .name t :: ts => do
      let (args, ts) ← parseTestArgs fuel depth ts
      parseFilters fuel depth (.test t e args) ts
    | .name "is" :: ts => refuse ts
    | ts => .ok (e, ts)

def parseTestArgs (fuel depth : Nat) (ts : List Token) : Except Error (Reading (List Expr)) :=
  match fuel with
  | 0 => .error .malformed
  | fuel + 1 =>
    match ts with
    | .symbol "(" :: ts => parseArgs fuel depth ts
    | t :: _ =>
      if startsArgument t then do
        let (e, ts) ← parseUnary fuel depth ts
        let (e, ts) ← parsePostfix fuel depth e ts
        return ([e], ts)
      else .ok ([], ts)
    | [] => .ok ([], [])

end

/-- Names that cannot be assigned. -/
def reserved : List String := ["true", "True", "false", "False", "none", "None", "loop", "self"]

def parseTargetName : List Token → Except Error (Reading String)
  | .name s :: ts => if s ∈ reserved then .error .malformed else .ok (s, ts)
  | ts => refuse ts

def parseMembers (target : Target) (e : Expr) : List Token → Except Error (Reading Target)
  | .symbol "." :: .name _ :: ts => parseMembers (.member e) (.member e) ts
  | .symbol "." :: ts => refuse ts
  | ts => .ok (target, ts)

def endsTargets : List Token → Bool
  | .symbol ")" :: _ => true
  | .closeOutput :: _ => true
  | .closeTag :: _ => true
  | .name "in" :: _ => true
  | _ => false

mutual

/-- A target, or several with commas between them. -/
def parseTargets (fuel : Nat) (ts : List Token) : Except Error (Reading Target) :=
  match fuel with
  | 0 => .error .malformed
  | fuel + 1 =>
    if endsTargets ts then .ok (.several [], ts)
    else do
      let (target, ts) ← parseTarget fuel ts
      match skipSymbol? "," ts with
      | none => return (target, ts)
      | some ts => do
        let (targets, ts) ← parseMoreTargets fuel ts
        return (.several (target :: targets), ts)

def parseMoreTargets (fuel : Nat) (ts : List Token) : Except Error (Reading (List Target)) :=
  match fuel with
  | 0 => .error .malformed
  | fuel + 1 =>
    if endsTargets ts then .ok ([], ts)
    else do
      let (target, ts) ← parseTarget fuel ts
      match skipSymbol? "," ts with
      | none => return ([target], ts)
      | some ts => do
        let (targets, ts) ← parseMoreTargets fuel ts
        return (target :: targets, ts)

def parseTarget (fuel : Nat) (ts : List Token) : Except Error (Reading Target) :=
  match fuel with
  | 0 => .error .malformed
  | fuel + 1 =>
    match skipSymbol? "(" ts with
    | some ts => do
      let (target, ts) ← parseTargets fuel ts
      return (target, ← expectSymbol ")" ts)
    | none => do
      let (name, ts) ← parseTargetName ts
      return (.name name, ts)

end

def parseFilterChain (fuel depth : Nat) (ts : List Token) :
    Except Error (Reading (List (String × List Expr))) :=
  match fuel with
  | 0 => .error .malformed
  | fuel + 1 =>
    match ts with
    | .name f :: ts => do
      let (args, ts) ← match skipSymbol? "(" ts with
        | some ts => parseArgs fuel depth ts
        | none => .ok ([], ts)
      match skipSymbol? "|" ts with
      | some ts => do
        let (filters, ts) ← parseFilterChain fuel depth ts
        return ((f, args) :: filters, ts)
      | none => return ([(f, args)], ts)
    | ts => refuse ts

/-- Names of tags that end what a tag before them began. -/
def closers : List String := ["elif", "else", "endif", "endfor", "endset"]

def parseLoopCondition (fuel depth : Nat) (ts : List Token) :
    Except Error (Reading (Option Expr)) :=
  match skipName? "if" ts with
  | none => .ok (none, ts)
  | some ts => do
    let (e, ts) ← parseExpr fuel depth ts
    return (some e, ts)

def skipIfName (s : String) (ts : List Token) : List Token := (skipName? s ts).getD ts

def expectPlainTag (name : String) (ts : List Token) : Except Error (List Token) := do
  expect .closeTag (← expectName name (← expect .openTag ts))

mutual

/-- The parts up to a tag that closes something, or to the end. -/
def parseParts (fuel depth : Nat) (ts : List Token) : Except Error (Reading (List Part)) :=
  match fuel with
  | 0 => .error .malformed
  | fuel + 1 =>
    match ts with
    | [] => .ok ([], [])
    | .openTag :: .name s :: ts' =>
      if s ∈ closers then .ok ([], ts)
      else if depth < depthLimit then do
        let (part, ts) ← parseTag fuel (depth + 1) s ts'
        let (parts, ts) ← parseParts fuel depth ts
        return (part :: parts, ts)
      else .error .malformed
    | .openTag :: ts => refuse ts
    | .text cs :: ts => do
      let (parts, ts) ← parseParts fuel depth ts
      return (.text cs :: parts, ts)
    | .openOutput :: ts => do
      let (e, ts) ← parseExpr fuel depth ts
      let ts ← expect .closeOutput ts
      let (parts, ts) ← parseParts fuel depth ts
      return (.output e :: parts, ts)
    | ts => refuse ts

/-- A tag of that name, through the tag that closes it. -/
def parseTag (fuel depth : Nat) (name : String) (ts : List Token) : Except Error (Reading Part) :=
  match fuel with
  | 0 => .error .malformed
  | fuel + 1 =>
    match name with
    | "if" => parseBranch fuel depth ts
    | "for" => do
      let (target, ts) ← parseTargets fuel ts
      let ts ← expectName "in" ts
      let (elements, ts) ← parseLevel fuel depth .disjunction ts
      let (condition, ts) ← parseLoopCondition fuel depth ts
      let ts ← expect .closeTag (skipIfName "recursive" ts)
      let (body, ts) ← parseParts fuel depth ts
      match ts with
      | .openTag :: .name "else" :: ts => do
        let (otherwise, ts) ← parseParts fuel depth (← expect .closeTag ts)
        return (.loop target elements condition body otherwise, ← expectPlainTag "endfor" ts)
      | ts => return (.loop target elements condition body [], ← expectPlainTag "endfor" ts)
    | "set" => do
      match skipSymbol? "(" ts with
      | some ts => do
        let (target, ts) ← parseTargets fuel ts
        parseAssigned fuel depth target (← expectSymbol ")" ts)
      | none => do
        let (name, ts) ← parseTargetName ts
        let (target, ts) ← parseMembers (.name name) (.reference name) ts
        match ts with
        | .closeTag :: ts => parseCaptured fuel depth target [] ts
        | .symbol "|" :: ts => do
          let (filters, ts) ← parseFilterChain fuel depth ts
          parseCaptured fuel depth target filters (← expect .closeTag ts)
        | ts => parseAssigned fuel depth target ts
    | "include" => do
      let (e, ts) ← parseExpr fuel depth ts
      match ts with
      | .name "ignore" :: ts =>
        return (.inclusion e true, ← expect .closeTag (← expectName "missing" ts))
      | ts => return (.inclusion e false, ← expect .closeTag ts)
    | _ => .error .malformed

def parseAssigned (fuel depth : Nat) (target : Target) (ts : List Token) :
    Except Error (Reading Part) :=
  match fuel with
  | 0 => .error .malformed
  | fuel + 1 => do
    let (e, ts) ← parseExpr fuel depth (← expectSymbol "=" ts)
    return (.assign target e, ← expect .closeTag ts)

def parseCaptured (fuel depth : Nat) (target : Target) (filters : List (String × List Expr))
    (ts : List Token) : Except Error (Reading Part) :=
  match fuel with
  | 0 => .error .malformed
  | fuel + 1 => do
    let (body, ts) ← parseParts fuel depth ts
    return (.capture target filters body, ← expectPlainTag "endset" ts)

def parseBranch (fuel depth : Nat) (ts : List Token) : Except Error (Reading Part) :=
  match fuel with
  | 0 => .error .malformed
  | fuel + 1 => do
    let (condition, ts) ← parseLevel fuel depth .disjunction ts
    let ts ← expect .closeTag ts
    let (body, ts) ← parseParts fuel depth ts
    match ts with
    | .openTag :: .name "elif" :: ts => do
      let (otherwise, ts) ← parseBranch fuel depth ts
      return (.branch condition body [otherwise], ts)
    | .openTag :: .name "else" :: ts => do
      let (otherwise, ts) ← parseParts fuel depth (← expect .closeTag ts)
      return (.branch condition body otherwise, ← expectPlainTag "endif" ts)
    | ts => return (.branch condition body [], ← expectPlainTag "endif" ts)

end

/-- The parts of a whole template. This is the part of the template language that texts of entries
and of messages need; whatever else that language has does not parse here: division with `/`,
powers, numbers with a fraction, lists and maps, and every tag but `if`, `for`, `set`, `include` and
`raw`. A call does parse, but there is no function to call. -/
def parse (ts : List Token) : Except Error (List Part) := do
  match ← parseParts (32 * (ts.length + 1)) 0 ts with
  | (parts, []) => return parts
  | (_, _ :: _) => .error .malformed

end MergeNotes.Template.Parser
