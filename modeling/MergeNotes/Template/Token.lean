import MergeNotes.Decimal
import MergeNotes.Template.Value

namespace MergeNotes.Template

inductive Token where
  | text (cs : List Char)
  | openOutput
  | closeOutput
  | openTag
  | closeTag
  | name (s : String)
  | string (cs : List Char)
  | int (n : Nat)
  | symbol (s : String)
  /-- Where the text stops being a template, and why. -/
  | unreadable (e : Error)
  deriving DecidableEq, Repr

namespace Token

inductive Marker where
  | output
  | tag
  | comment
  deriving DecidableEq, Repr

/-- Whether the space next to a brace goes or stays. -/
inductive Control where
  | trims
  | keeps
  deriving DecidableEq, Repr

def isSpace (c : Char) : Bool := Chars.isAsciiBlank c

def skipSpace (cs : List Char) : List Char := cs.dropWhile isSpace

def cutAtMarker? : List Char → Option (List Char × Marker × List Char)
  | [] => none
  | '{' :: '{' :: cs => some ([], .output, cs)
  | '{' :: '%' :: cs => some ([], .tag, cs)
  | '{' :: '#' :: cs => some ([], .comment, cs)
  | c :: cs => (cutAtMarker? cs).map fun (lead, marker, rest) => (c :: lead, marker, rest)

def readControl : List Char → Control × List Char
  | '-' :: cs => (.trims, cs)
  | '+' :: cs => (.keeps, cs)
  | cs => (.keeps, cs)

def skipTagEnd? (close : Char) : List Char → Option (Control × List Char)
  | '-' :: c :: '}' :: cs => if c = close then some (.trims, cs) else none
  | '+' :: c :: '}' :: cs => if c = close then some (.keeps, cs) else none
  | c :: '}' :: cs => if c = close then some (.keeps, cs) else none
  | _ => none

def skipPlainTag? (name : List Char) (cs : List Char) : Option (Control × List Char) :=
  (Chars.dropPrefix? name (skipSpace cs)).bind fun rest => skipTagEnd? '%' (skipSpace rest)

/-- The text of a raw block, the controls inside its closing tag and after it, and the rest. -/
def cutAtRawEnd? : List Char → Option (List Char × Control × Control × List Char)
  | [] => none
  | '{' :: '%' :: cs =>
    let (control, rest) := readControl cs
    match skipPlainTag? "endraw".toList rest with
    | some (after, rest) => some ([], control, after, rest)
    | none => (cutAtRawEnd? cs).map fun (body, rest) => ('{' :: '%' :: body, rest)
  | c :: cs => (cutAtRawEnd? cs).map fun (body, rest) => (c :: body, rest)

def ofText (cs : List Char) : List Token := if cs.isEmpty then [] else [.text cs]

/-- What stands between the marks of a string, from after the first one, and what follows the
second; a backslash keeps the character after it from being a mark. -/
def cutString? (close : Char) : List Char → Option (List Char × List Char)
  | [] => none
  | '\\' :: c :: cs => (cutString? close cs).map fun (body, rest) => ('\\' :: c :: body, rest)
  | c :: cs =>
    if c = close then some ([], cs)
    else (cutString? close cs).map fun (body, rest) => (c :: body, rest)

/-- The number of hexadecimal digits, which may have a plus before them. -/
def hexOf? (digits : List Char) : Option Nat :=
  match digits with
  | '+' :: ds => if ds.isEmpty then none else Decimal.ofHex? ds
  | ds => if ds.isEmpty then none else Decimal.ofHex? ds

def isOctal (c : Char) : Bool := '0' ≤ c && c ≤ '7'

def octalOf (digits : List Char) : Nat := digits.foldl (fun n d => n * 8 + Decimal.natOf [d]) 0

def escaped? : Char → Option Char
  | '"' => some '"'
  | '\\' => some '\\'
  | '/' => some '/'
  | '\'' => some '\''
  | 'b' => some '\x08'
  | 'f' => some '\x0c'
  | 'n' => some '\n'
  | 'r' => some '\r'
  | 't' => some '\t'
  | _ => none

def isHighSurrogate (n : Nat) : Bool := 0xD800 ≤ n && n < 0xDC00

def isLowSurrogate (n : Nat) : Bool := 0xDC00 ≤ n && n < 0xE000

def surrogatePair (high low : Nat) : Char :=
  Char.ofNat (0x10000 + (high - 0xD800) * 0x400 + (low - 0xDC00))

/-- The text of a string with escapes. An escape of four digits may be half of a surrogate pair, and
then the other half follows; an escape that means nothing stands for itself. -/
def unescape? : Nat → List Char → Option (List Char)
  | 0, _ => none
  | _, [] => some []
  | fuel + 1, '\\' :: 'u' :: cs => do
    let n ← hexOf? (cs.take 4)
    if cs.length < 4 || isLowSurrogate n then none
    else if isHighSurrogate n then
      match cs.drop 4 with
      | '\\' :: 'u' :: ds => do
        let m ← hexOf? (ds.take 4)
        if ds.length < 4 || !isLowSurrogate m then none
        else return surrogatePair n m :: (← unescape? fuel (ds.drop 4))
      | _ => none
    else return Char.ofNat n :: (← unescape? fuel (cs.drop 4))
  | fuel + 1, '\\' :: 'x' :: cs => do
    let n ← hexOf? (cs.take 2)
    if cs.length < 2 then none else return Char.ofNat n :: (← unescape? fuel (cs.drop 2))
  | fuel + 1, '\\' :: c :: cs => do
    if isOctal c then
      let digits := c :: (cs.take 2).takeWhile isOctal
      if octalOf digits < UInt8.size then
        return Char.ofNat (octalOf digits) :: (← unescape? fuel (cs.drop (digits.length - 1)))
      else none
    else
      let rest ← unescape? fuel cs
      return match escaped? c with
        | some d => d :: rest
        | none => '\\' :: c :: rest
  | fuel + 1, c :: cs => do return c :: (← unescape? fuel cs)

def readString (close : Char) (cs : List Char) : Except Error (List Char × List Char) :=
  match cutString? close cs with
  | none => .error .malformed
  | some (body, rest) =>
    match unescape? (body.length + 1) body with
    | some s => .ok (s, rest)
    | none => .error .badEscape

def isNameStart (c : Char) : Bool := c.isAlpha || c == '_'

def isNameChar (c : Char) : Bool := c.isAlphanum || c == '_'

def base? : Char → Option Nat
  | 'b' => some 2
  | 'B' => some 2
  | 'o' => some 8
  | 'O' => some 8
  | 'x' => some 16
  | 'X' => some 16
  | _ => none

/-- The number of digits, between and before which underscores may stand. -/
def natIn? (base : Nat) (digits : List Char) : Option Nat :=
  let kept := digits.filter (· != '_')
  if kept.isEmpty || digits.getLast? = some '_' then none
  else kept.foldlM (fun n d =>
    (Decimal.hexValue? d).bind fun m => if m < base then some (n * base + m) else none) 0

def isNumberChar (base : Nat) (c : Char) : Bool :=
  c.isDigit || c == '_' || (base == 16 && (Decimal.hexValue? c).isSome)

/-- A number of digits in a base; a number with a fraction or an exponent is none. -/
def readDigits (base : Nat) (cs : List Char) : Except Error (Nat × List Char) :=
  let rest := cs.dropWhile (isNumberChar base)
  let ended := base != 10 || !(rest.head?.any fun c => c == '.' || c == 'e' || c == 'E')
  match natIn? base (cs.takeWhile (isNumberChar base)) with
  | some n => if ended && n < Value.literalBound then .ok (n, rest) else .error .malformed
  | none => .error .malformed

def readNumber : List Char → Except Error (Nat × List Char)
  | '0' :: c :: cs =>
    match base? c with
    | some base => readDigits base cs
    | none => readDigits 10 ('0' :: c :: cs)
  | cs => readDigits 10 cs

def symbols : List Char :=
  ['+', '-', '*', '%', '.', ',', ':', '~', '|', '=', '<', '>', '(', ')', '[', ']']

def doubleSymbols : List (Char × Char) :=
  [('/', '/'), ('=', '='), ('!', '='), ('<', '='), ('>', '=')]

def readInner : List Char → Except Error (Token × List Char)
  | [] => .error .malformed
  | c :: cs =>
    if c = '"' || c = '\'' then do
      let (s, rest) ← readString c cs
      return (.string s, rest)
    else if isNameStart c then
      .ok (.name (String.ofList (c :: cs.takeWhile isNameChar)), cs.dropWhile isNameChar)
    else if c.isDigit then do
      let (n, rest) ← readNumber (c :: cs)
      return (.int n, rest)
    else match cs with
      | d :: rest =>
        if (c, d) ∈ doubleSymbols then .ok (.symbol (String.ofList [c, d]), rest)
        else if c ∈ symbols then .ok (.symbol (String.ofList [c]), cs)
        else .error .malformed
      | [] => if c ∈ symbols then .ok (.symbol (String.ofList [c]), []) else .error .malformed

/-- Tokens inside braces up to the closing one, then the control of the space after it and the rest,
unless the text stops being a template before that. -/
def readInside (close : Char) : Nat → List Char → List Token × Option (Control × List Char)
  | 0, _ => ([.unreadable .malformed], none)
  | fuel + 1, cs =>
    let cs := skipSpace cs
    match skipTagEnd? close cs with
    | some (control, rest) => ([], some (control, rest))
    | none =>
      match readInner cs with
      | .error e => ([.unreadable e], none)
      | .ok (token, rest) =>
        let (tokens, ending) := readInside close fuel rest
        (token :: tokens, ending)

def trimmedEnd (control : Control) (cs : List Char) : List Char :=
  if control = .trims then Chars.trimEnd cs else cs

def trimmedStart (control : Control) (cs : List Char) : List Char :=
  if control = .trims then Chars.trimStart cs else cs

/-- The tokens of a text that stands outside of braces, where `control` is that of the brace before
it. -/
def readOutside : Nat → Control → List Char → List Token
  | 0, _, _ => [.unreadable .malformed]
  | fuel + 1, control, cs =>
    let cs := trimmedStart control cs
    match cutAtMarker? cs with
    | none => ofText cs
    | some (lead, marker, rest) =>
      let (control, inner) := readControl rest
      let lead := ofText (trimmedEnd control lead)
      match marker with
      | .comment =>
        match Chars.cutAt? ['#', '}'] inner with
        | none => lead ++ [.unreadable .malformed]
        | some (body, rest) =>
          let control := if body.getLast? = some '-' then .trims else .keeps
          lead ++ readOutside fuel control rest
      | .output =>
        match readInside '}' (inner.length + 1) inner with
        | (tokens, none) => lead ++ .openOutput :: tokens
        | (tokens, some (control, rest)) =>
          lead ++ .openOutput :: tokens ++ .closeOutput :: readOutside fuel control rest
      | .tag =>
        match skipPlainTag? "raw".toList inner with
        | some (first, rest) =>
          match cutAtRawEnd? rest with
          | none => lead ++ [.unreadable .malformed]
          | some (body, last, control, rest) =>
            let body := ofText (trimmedEnd last (trimmedStart first body))
            lead ++ body ++ readOutside fuel control rest
        | none =>
          match readInside '%' (inner.length + 1) inner with
          | (tokens, none) => lead ++ .openTag :: tokens
          | (tokens, some (control, rest)) =>
            lead ++ .openTag :: tokens ++ .closeTag :: readOutside fuel control rest

/-- The tokens of a template, up to where it stops being one. Text stands outside of braces; a
hyphen inside a brace takes away the space on its outer side. -/
def scan (cs : List Char) : List Token := readOutside (cs.length + 1) .keeps cs

end Token
end MergeNotes.Template
