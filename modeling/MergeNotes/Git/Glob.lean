import MergeNotes.Chars.Blank

namespace MergeNotes.Git.Glob

inductive Member where
  | range (first last : Char)
  | kind (isOfKind : Char → Bool)

inductive Piece where
  | char (c : Char)
  | any
  | oneOf (negated : Bool) (members : List Member)
  /-- Any number of characters, slashes too if `crosses`. -/
  | star (crosses : Bool)
  /-- Nothing, or anything that ends in a slash. -/
  | folders
  /-- A bracket or an escape that does not end, which stands for nothing at all. -/
  | broken

def Member.holds (c : Char) : Member → Bool
  | .range first last => first ≤ c && c ≤ last
  | .kind isOfKind => isOfKind c

def isGraphic (c : Char) : Bool := '!' ≤ c && c ≤ '~'

/-- The kinds of characters that a bracket may name; none has a character beyond 127. -/
def kind? : String → Option (Char → Bool)
  | "alnum" => some Char.isAlphanum
  | "alpha" => some Char.isAlpha
  | "blank" => some fun c => c == ' ' || c == '\t'
  | "cntrl" => some fun c => c < ' ' || c == '\x7f'
  | "digit" => some Char.isDigit
  | "graph" => some isGraphic
  | "lower" => some Char.isLower
  | "print" => some fun c => c == ' ' || isGraphic c
  | "punct" => some fun c => isGraphic c && !c.isAlphanum
  | "space" => some Chars.isAsciiSpace
  | "upper" => some Char.isUpper
  | "xdigit" => some fun c => c.isDigit || ('a' ≤ c && c ≤ 'f') || ('A' ≤ c && c ≤ 'F')
  | _ => none

/-- A member, the character that a range may start with after it, and the rest; `start?` is that
character for this one. -/
def readMember? (start? : Option Char) : List Char → Option (Member × Option Char × List Char)
  | [] => none
  | '\\' :: cs =>
    match cs with
    | [] => none
    | c :: cs => some (.range c c, some c, cs)
  | '[' :: ':' :: cs =>
    let name := cs.takeWhile (· != ']')
    match cs.drop name.length with
    | [] => none
    | _ :: rest =>
      if name.getLast? == some ':' then
        (kind? (String.ofList name.dropLast)).map fun p => (.kind p, none, rest)
      else some (.range '[' '[', some '[', ':' :: cs)
  | c :: cs =>
    match start?, c, cs with
    | some first, '-', '\\' :: last :: rest => some (.range first last, none, rest)
    | some _, '-', ['\\'] => none
    | some first, '-', last :: rest =>
      if last == ']' then some (.range c c, some c, cs) else some (.range first last, none, rest)
    | _, _, _ => some (.range c c, some c, cs)

/-- The members of a bracket through its end, which its first character cannot be. -/
def readMembers? : Nat → Bool → Option Char → List Char → Option (List Member × List Char)
  | 0, _, _, _ => none
  | fuel + 1, isFirst, start?, cs =>
    if !isFirst && cs.head? == some ']' then some ([], cs.tail)
    else do
      let (m, start?, rest) ← readMember? start? cs
      let (ms, rest) ← readMembers? fuel false start? rest
      return (m :: ms, rest)

def readBracket? (cs : List Char) : Option (Piece × List Char) :=
  let negated := cs.head? == some '!' || cs.head? == some '^'
  let body := if negated then cs.tail else cs
  (readMembers? (body.length + 1) true none body).map fun (ms, rest) => (.oneOf negated ms, rest)

/-- Whether stars with `rest` after them end where a segment ends. -/
def endsSegment : List Char → Bool
  | [] => true
  | '/' :: _ => true
  | '\\' :: '/' :: _ => true
  | _ => false

/-- A pattern from after the character `last?` on. -/
def readPieces (isPath : Bool) : Nat → Option Char → List Char → List Piece
  | 0, _, _ => []
  | fuel + 1, last?, cs =>
    match cs with
    | [] => []
    | '\\' :: rest =>
      match rest with
      | [] => [.broken]
      | c :: rest => .char c :: readPieces isPath fuel (some c) rest
    | '?' :: rest => .any :: readPieces isPath fuel (some '?') rest
    | '[' :: rest =>
      match readBracket? rest with
      | none => [.broken]
      | some (piece, rest) => piece :: readPieces isPath fuel (some ']') rest
    | '*' :: rest =>
      let after := rest.dropWhile (· == '*')
      if !isPath then .star true :: readPieces isPath fuel (some '*') after
      else if rest.head? == some '*' && (last? == none || last? == some '/') && endsSegment after
      then match after with
        | '/' :: after => .folders :: readPieces isPath fuel (some '/') after
        | _ => .star true :: readPieces isPath fuel (some '*') after
      else .star false :: readPieces isPath fuel (some '*') after
    | c :: rest => .char c :: readPieces isPath fuel (some c) rest

def read (isPath : Bool) (pattern : List Char) : List Piece :=
  readPieces isPath (pattern.length + 1) none pattern

def suffixesWhile (p : Char → Bool) : List Char → List (List Char)
  | [] => [[]]
  | c :: cs => (c :: cs) :: if p c then suffixesWhile p cs else []

/-- What is left after some whole segments; `isStart` says that a segment starts here. -/
def afterFolders (isStart : Bool) : List Char → List (List Char)
  | [] => if isStart then [[]] else []
  | c :: cs => (if isStart then [c :: cs] else []) ++ afterFolders (c == '/') cs

def fits (isPath : Bool) : List Piece → List Char → Bool
  | [], cs => cs.isEmpty
  | .char c :: ps, d :: cs => c == d && fits isPath ps cs
  | .any :: ps, d :: cs => !(isPath && d == '/') && fits isPath ps cs
  | .oneOf negated ms :: ps, d :: cs =>
    !(isPath && d == '/') && (ms.any (·.holds d) != negated) && fits isPath ps cs
  | .star crosses :: ps, cs =>
    (suffixesWhile (fun c => crosses || c != '/') cs).any fun rest => fits isPath ps rest
  | .folders :: ps, cs => (afterFolders true cs).any fun rest => fits isPath ps rest
  | .broken :: _, _ => false
  | _ :: _, [] => false

/-- Whether a pattern stands for the whole of a text. A question mark stands for one character, a
bracket for one of those that it lists, and a star for any number of them; a backslash takes the
next character as it is. In a pattern for whole paths none of these stands for a slash, except two
stars that are a segment of their own. -/
def isMatch (isPath : Bool) (pattern text : List Char) : Bool :=
  fits isPath (read isPath pattern) text

end MergeNotes.Git.Glob
