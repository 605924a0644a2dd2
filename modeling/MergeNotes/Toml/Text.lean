import MergeNotes.Decimal

namespace MergeNotes.Toml

def isSpace (c : Char) : Bool := c == ' ' || c == '\t'

def skipSpace (cs : List Char) : List Char := cs.dropWhile isSpace

/-- Characters that may stand in a comment or a string: no control character but the tab. -/
def isPlain (c : Char) : Bool := c == '\t' || (0x20 ≤ c.toNat && c.toNat ≠ 0x7F)

def skipNewline? : List Char → Option (List Char)
  | '\n' :: cs => some cs
  | '\r' :: '\n' :: cs => some cs
  | _ => none

/-- The end of a statement: space, a comment, and a line end or the end of the text. -/
def endLine? (cs : List Char) : Option (List Char) :=
  let rest := match skipSpace cs with
    | '#' :: cs => cs.dropWhile isPlain
    | cs => cs
  if rest.isEmpty then some [] else skipNewline? rest

def skipFiller (inComment : Bool) : List Char → List Char
  | [] => []
  | '\n' :: cs => skipFiller false cs
  | '\r' :: '\n' :: cs => skipFiller false cs
  | c :: cs =>
    if inComment then if isPlain c then skipFiller true cs else c :: cs
    else if isSpace c then skipFiller false cs
    else if c == '#' then skipFiller true cs
    else c :: cs

def scalar? (n : Nat) : Option Char :=
  if h : n.isValidChar then some (Char.ofNatAux n h) else none

def escape? : Char → Option Char
  | 'b' => some '\x08'
  | 't' => some '\t'
  | 'n' => some '\n'
  | 'f' => some '\x0c'
  | 'r' => some '\r'
  | '"' => some '"'
  | '\\' => some '\\'
  | _ => none

def escapeHex? (digits : List Char) : Option Char := (Decimal.ofHex? digits).bind scalar?

def readBasic? : List Char → Option (List Char × List Char)
  | [] => none
  | '"' :: cs => some ([], cs)
  | '\\' :: 'u' :: a :: b :: c :: d :: cs => do
    let x ← escapeHex? [a, b, c, d]
    let (s, rest) ← readBasic? cs
    return (x :: s, rest)
  | '\\' :: 'U' :: a :: b :: c :: d :: e :: f :: g :: h :: cs => do
    let x ← escapeHex? [a, b, c, d, e, f, g, h]
    let (s, rest) ← readBasic? cs
    return (x :: s, rest)
  | '\\' :: e :: cs => do
    let x ← escape? e
    let (s, rest) ← readBasic? cs
    return (x :: s, rest)
  | c :: cs =>
    if c == '\\' || !isPlain c then none
    else do
      let (s, rest) ← readBasic? cs
      return (c :: s, rest)

def readLiteral? (cs : List Char) : Option (List Char × List Char) :=
  let s := cs.takeWhile fun c => c != '\'' && isPlain c
  match cs.drop s.length with
  | '\'' :: rest => some (s, rest)
  | _ => none

def endsLine (cs : List Char) : Bool := (skipNewline? (skipSpace cs)).isSome

/-- A string of several lines from after its opening marks. A backslash at the end of a line takes
away all space and line ends up to the next text; up to two quotation marks may stand before the
closing three. -/
def readLines? (joining : Bool) : List Char → Option (List Char × List Char)
  | [] => none
  | '"' :: '"' :: '"' :: '"' :: '"' :: cs => some (['"', '"'], cs)
  | '"' :: '"' :: '"' :: '"' :: cs => some (['"'], cs)
  | '"' :: '"' :: '"' :: cs => some ([], cs)
  | '\\' :: 'u' :: a :: b :: c :: d :: cs => do
    let x ← escapeHex? [a, b, c, d]
    let (s, rest) ← readLines? false cs
    return (x :: s, rest)
  | '\\' :: 'U' :: a :: b :: c :: d :: e :: f :: g :: h :: cs => do
    let x ← escapeHex? [a, b, c, d, e, f, g, h]
    let (s, rest) ← readLines? false cs
    return (x :: s, rest)
  | '\\' :: e :: cs =>
    if endsLine (e :: cs) then readLines? true (e :: cs)
    else do
      let x ← escape? e
      let (s, rest) ← readLines? false cs
      return (x :: s, rest)
  | '\r' :: '\n' :: cs =>
    if joining then readLines? true cs
    else do
      let (s, rest) ← readLines? false cs
      return ('\n' :: s, rest)
  | c :: cs =>
    if joining && (isSpace c || c == '\n') then readLines? true cs
    else if c == '\\' || !(isPlain c || c == '\n') then none
    else do
      let (s, rest) ← readLines? false cs
      return (c :: s, rest)

def readLiteralLines? : List Char → Option (List Char × List Char)
  | [] => none
  | '\'' :: '\'' :: '\'' :: '\'' :: '\'' :: cs => some (['\'', '\''], cs)
  | '\'' :: '\'' :: '\'' :: '\'' :: cs => some (['\''], cs)
  | '\'' :: '\'' :: '\'' :: cs => some ([], cs)
  | '\r' :: '\n' :: cs => do
    let (s, rest) ← readLiteralLines? cs
    return ('\n' :: s, rest)
  | c :: cs =>
    if !(isPlain c || c == '\n') then none
    else do
      let (s, rest) ← readLiteralLines? cs
      return (c :: s, rest)

/-- A line end right after the opening marks is not part of the string. -/
def dropFirstNewline (cs : List Char) : List Char := (skipNewline? cs).getD cs

def readString? : List Char → Option (List Char × List Char)
  | '"' :: '"' :: '"' :: cs => readLines? false (dropFirstNewline cs)
  | '"' :: cs => readBasic? cs
  | '\'' :: '\'' :: '\'' :: cs => readLiteralLines? (dropFirstNewline cs)
  | '\'' :: cs => readLiteral? cs
  | _ => none

def isBareKeyChar (c : Char) : Bool := c.isAlphanum || c == '_' || c == '-'

def readKeyPart? : List Char → Option (List Char × List Char)
  | '"' :: cs => readBasic? cs
  | '\'' :: cs => readLiteral? cs
  | cs =>
    let key := cs.takeWhile isBareKeyChar
    if key.isEmpty then none else some (key, cs.drop key.length)

def readKeyParts? : Nat → List Char → Option (List String × List Char)
  | 0, _ => none
  | fuel + 1, cs => do
    let (part, rest) ← readKeyPart? (skipSpace cs)
    match skipSpace rest with
    | '.' :: rest => do
      let (parts, rest) ← readKeyParts? fuel rest
      return (String.ofList part :: parts, rest)
    | rest => return ([String.ofList part], rest)

/-- Keys and values may not nest this deep. -/
def depthLimit : Nat := 80

def readKey? (cs : List Char) : Option ((List String × String) × List Char) := do
  let (parts, rest) ← readKeyParts? (depthLimit - 1) cs
  let key ← parts.getLast?
  return ((parts.dropLast, key), rest)

end MergeNotes.Toml
