import MergeNotes.Decimal
import MergeNotes.Extraction
import MergeNotes.Text

namespace MergeNotes.CommandLine

inductive Operand where
  | nothing
  | text
  | path
  | rule
  | number
  deriving DecidableEq, Repr

/-- A number from zero on that fits in 64 bits. -/
def number? (text : String) : Option UInt64 :=
  let digits := match text.toList with
    | '+' :: cs => cs
    | cs => cs
  let n := Decimal.natOf digits
  if digits.isEmpty || !digits.all Char.isDigit || UInt64.size ≤ n then none
  else some (UInt64.ofNat n)

def Operand.accepts : Operand → String → Bool
  | nothing, _ => false
  | text, _ => true
  | path, s => !s.isEmpty
  | rule, s => (Rule.parse s).toOption.isSome
  | number, s => (number? s).isSome

structure Switch where
  name : String
  letter : Option Char := none
  operand : Operand := .path
  deriving DecidableEq, Repr

inductive Stop where
  | help
  | version
  | misuse
  deriving DecidableEq, Repr

/-- The names of the options that were given, each with what it took. -/
abbrev Given := List (String × String)

def Given.value? (g : Given) (s : Switch) : Option String := g.lookup s.name

inductive Argument where
  /-- Two hyphens, after which there are no options. -/
  | terminator
  | word (text : String)
  | long (name : List Char) (value : Option (List Char))
  | short (letter : Char) (rest : List Char)
  deriving DecidableEq, Repr

/-- A single hyphen is a word. -/
def Argument.ofText (text : String) : Argument :=
  match text.toList with
  | ['-', '-'] => .terminator
  | '-' :: '-' :: cs =>
    match Chars.cutAt? ['='] cs with
    | some (name, value) => .long name (some value)
    | none => .long cs none
  | '-' :: c :: cs => .short c cs
  | _ => .word text

/-- The value behind a letter, with or without an equals sign between them. -/
def attached : List Char → Option (List Char)
  | [] => none
  | '=' :: cs => some cs
  | cs => some cs

/-- An option that an argument names, with the value in the same argument. -/
def mention (known : List Switch) : Argument → Except Stop (Switch × Option (List Char))
  | .terminator => .error .misuse
  | .word _ => .error .misuse
  | .long name value =>
    match known.find? (·.name.toList == name) with
    | some s => .ok (s, value)
    | none => .error (if name == "help".toList && value.isNone then .help else .misuse)
  | .short letter rest =>
    match known.find? (·.letter == some letter) with
    | some s => .ok (s, attached rest)
    | none => .error (if letter == 'h' then .help else .misuse)

/-- Adds an option to those given before, without a look at its value. -/
def addOnce (given : Given) (s : Switch) (value : String) : Except Stop Given :=
  if (Given.value? given s).isSome then .error .misuse else .ok (given ++ [(s.name, value)])

def add (given : Given) (s : Switch) (value : String) : Except Stop Given :=
  if s.operand.accepts value then addOnce given s value else .error .misuse

/-- The options among arguments, after those given before. A value stands in the same argument as
its option or in the next one; an option is given once at most, and nothing but options may be
given. -/
def readOptions (known : List Switch) (given : Given) : List String → Except Stop Given
  | [] => .ok given
  | arg :: rest =>
    match Argument.ofText arg with
    | .terminator => if rest.isEmpty then .ok given else .error .misuse
    | argument =>
      match mention known argument with
      | .error stop => .error stop
      | .ok (s, some value) => do
        readOptions known (← add given s (String.ofList value)) rest
      | .ok (s, none) =>
        if s.operand = .nothing then do readOptions known (← addOnce given s "") rest
        else match rest with
          | [] => .error .misuse
          | next :: rest =>
            match Argument.ofText next with
            | .word value => do readOptions known (← add given s value) rest
            | _ => .error .misuse

end MergeNotes.CommandLine
