import MergeNotes.Toml.Number
import MergeNotes.Toml.Text

namespace MergeNotes.Toml

mutual

def readValue? (fuel depth : Nat) (cs : List Char) : Option (Toml × List Char) :=
  match fuel with
  | 0 => none
  | fuel + 1 =>
    match cs with
    | '[' :: cs =>
      if depth + 1 < depthLimit then do
        let (items, rest) ← readItems? fuel (depth + 1) cs
        return (.array items, rest)
      else none
    | '{' :: cs =>
      if depth + 1 < depthLimit then
        match skipSpace cs with
        | '}' :: rest => some (.table [], rest)
        | cs => do
          let (pairs, rest) ← readPairs? fuel (depth + 1) cs
          return (← inline? pairs, rest)
      else none
    | 't' :: 'r' :: 'u' :: 'e' :: rest => some (.boolean true, rest)
    | 'f' :: 'a' :: 'l' :: 's' :: 'e' :: rest => some (.boolean false, rest)
    | cs =>
      match readString? cs with
      | some (s, rest) => some (.string (String.ofList s), rest)
      | none => readNumber? cs

/-- The items of an array through its closing bracket; a comma may follow the last. -/
def readItems? (fuel depth : Nat) (cs : List Char) : Option (List Toml × List Char) :=
  match fuel with
  | 0 => none
  | fuel + 1 =>
    match skipFiller false cs with
    | ']' :: rest => some ([], rest)
    | cs => do
      let (v, rest) ← readValue? fuel depth cs
      match skipFiller false rest with
      | ',' :: rest => do
        let (vs, rest) ← readItems? fuel depth rest
        return (v :: vs, rest)
      | ']' :: rest => return ([v], rest)
      | _ => none

def readPairs? (fuel depth : Nat) (cs : List Char) :
    Option (List (List String × String × Toml) × List Char) :=
  match fuel with
  | 0 => none
  | fuel + 1 => do
    let ((path, key), rest) ← readKey? cs
    match rest with
    | '=' :: rest => do
      let (v, rest) ← readValue? fuel depth (skipSpace rest)
      match skipSpace rest with
      | ',' :: rest => do
        let (pairs, rest) ← readPairs? fuel depth rest
        return ((path, key, v) :: pairs, rest)
      | '}' :: rest => return ([(path, key, v)], rest)
      | _ => none
    | _ => none

end

def readStatement? (cs : List Char) : Option (Statement × List Char) :=
  match cs with
  | '[' :: '[' :: cs => do
    let ((path, key), rest) ← readKey? cs
    match rest with
    | ']' :: ']' :: rest => return (.openElement path key, ← endLine? rest)
    | _ => none
  | '[' :: cs => do
    let ((path, key), rest) ← readKey? cs
    match rest with
    | ']' :: rest => return (.openTable path key, ← endLine? rest)
    | _ => none
  | cs => do
    let ((path, key), rest) ← readKey? cs
    match rest with
    | '=' :: rest => do
      let (v, rest) ← readValue? (2 * cs.length) 0 (skipSpace rest)
      return (.define path key v, ← endLine? rest)
    | _ => none

/-- The statements of a text; lines with nothing but space and a comment are none. -/
def readStatements? : Nat → List Char → Option (List Statement)
  | 0, _ => none
  | fuel + 1, cs =>
    match skipSpace cs with
    | [] => some []
    | c :: rest =>
      if c == '#' || c == '\n' || c == '\r' then
        (endLine? (c :: rest)).bind (readStatements? fuel)
      else do
        let (s, rest) ← readStatement? (c :: rest)
        let ss ← readStatements? fuel rest
        return s :: ss

/-- The table of a document, whose text may start with a byte order mark. -/
def ofText? (text : List Char) : Option (List (String × Toml)) := do
  let cs := match text with
    | '\ufeff' :: cs => cs
    | cs => cs
  let statements ← readStatements? (cs.length + 1) cs
  ofStatements? statements

end MergeNotes.Toml
