import MergeNotes.Config
import MergeNotes.Mismatch
import MergeNotes.Toml.Reader

namespace MergeNotes.Config

def Found.ofToml : Toml → Found
  | .string s => .text s
  | .integer n => .integer n
  | .float => .floatingPoint
  | .boolean b => .boolean b
  | .datetime => .map
  | .array _ => .sequence
  | .table _ => .map

def wrongType (v : Toml) (expected : String) : Misread :=
  .mismatch (.invalidType (Found.ofToml v) expected)

def readText (expected : String) : Toml → Except Misread String
  | .string s => .ok s
  | v => .error (wrongType v expected)

def readTexts : Toml → Except Misread (List String)
  | .array items => items.mapM (readText "a string")
  | v => .error (wrongType v "a sequence")

def ruleNames : List String := [Rule.summary.name, Rule.fields.name]

def readRuleName (name : String) : Except Misread Rule :=
  match Rule.ofName? name with
  | some rule => .ok rule
  | none => .error (.mismatch (.unknownVariant name ruleNames))

/-- A rule by its name, which may also be the one key of a table and then holds nothing. -/
def readRule : Toml → Except Misread Rule
  | .string name => readRuleName name
  | .table [(name, v)] => do
    let rule ← readRuleName name
    match v with
    | .table [] => .ok rule
    | .array [] => .ok rule
    | _ => .error .malformed
  | _ => .error .malformed

def readCount : Toml → Except Misread Nat
  | .integer n =>
    if 0 ≤ n ∧ n < UInt32.size then .ok n.toNat
    else .error (.mismatch (.invalidValue (.integer n) "u32"))
  | v => .error (wrongType v "u32")

structure Key (σ : Type) where
  name : String
  read : Toml → σ → Except Misread σ

/-- The key under which the parts of a date are handed on. -/
def datetimeKey : String := "$__toml_private_datetime"

def unknownKey (keys : List (Key σ)) (name : String) : Misread :=
  .mismatch (.unknownField name (keys.map Key.name))

def readPair (keys : List (Key σ)) (s : σ) (pair : String × Toml) : Except Misread σ :=
  match keys.find? (·.name = pair.1) with
  | some key => key.read pair.2 s
  | none => .error (unknownKey keys pair.1)

/-- A section from its defaults and what is given for it: every key that is given replaces a
default. It may also be a sequence of its values in order, the last of which may be missing. -/
def readSection (expected : String) (keys : List (Key σ)) (defaults : σ) :
    Toml → Except Misread σ
  | .table pairs => pairs.foldlM (readPair keys) defaults
  | .array items => (keys.zip items).foldlM (fun s (key, v) => key.read v s) defaults
  | .datetime => .error (unknownKey keys datetimeKey)
  | v => .error (wrongType v expected)

def changelogKeys : List (Key Changelog) := [
  ⟨"path", fun v s => return { s with path := ⟨← readText "path string" v⟩ }⟩]

def extractionKeys : List (Key Extraction) := [
  ⟨"rule", fun v s => return { s with rule := ← readRule v }⟩,
  ⟨"fields", fun v s => return { s with fields := ← readTexts v }⟩,
  ⟨"skip_marker", fun v s => return { s with skipMarker := ← readText "a string" v }⟩]

def entryKeys : List (Key Entry) := [
  ⟨"template", fun v s => return { s with template := ← readText "a string" v }⟩]

def commitKeys : List (Key Commit) := [
  ⟨"author_name", fun v s => return { s with authorName := ← readText "a string" v }⟩,
  ⟨"author_email", fun v s => return { s with authorEmail := ← readText "a string" v }⟩,
  ⟨"message", fun v s => return { s with message := ← readText "a string" v }⟩]

def pushKeys : List (Key Push) := [
  ⟨"remote", fun v s => return { s with remote := ← readText "a string" v }⟩,
  ⟨"token_env", fun v s => return { s with tokenEnv := ← readText "a string" v }⟩,
  ⟨"rebase_retries", fun v s => return { s with retries := ← readCount v }⟩]

def sectionKeys : List (Key Config) := [
  ⟨"changelog", fun v s =>
    return { s with changelog := ← readSection "struct ChangelogConfig" changelogKeys {} v }⟩,
  ⟨"extraction", fun v s =>
    return { s with extraction := ← readSection "struct ExtractionConfig" extractionKeys {} v }⟩,
  ⟨"entry", fun v s =>
    return { s with entry := ← readSection "struct EntryConfig" entryKeys {} v }⟩,
  ⟨"commit", fun v s =>
    return { s with commit := ← readSection "struct CommitConfig" commitKeys {} v }⟩,
  ⟨"push", fun v s =>
    return { s with push := ← readSection "struct PushConfig" pushKeys {} v }⟩]

def ofTable (pairs : List (String × Toml)) : Except Misread Config :=
  readSection "struct UpdaterConfig" sectionKeys {} (.table pairs)

/-- Reads a text without checking the configuration that it describes. -/
def ofText (text : String) : Except Misread Config :=
  match Toml.ofText? text.toList with
  | some pairs => ofTable pairs
  | none => .error .malformed

end MergeNotes.Config
