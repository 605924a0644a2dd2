import MergeNotes.Extraction
import MergeNotes.Path

namespace MergeNotes

/-- Where the document lies, seen from the root of the repository. -/
structure Config.Changelog where
  path : Path := ⟨"CHANGELOG.md"⟩
  deriving DecidableEq, Repr

structure Config.Extraction where
  rule : Rule := .summary
  fields : List String := Extraction.defaultFields
  skipMarker : String := "[skip changelog]"
  deriving DecidableEq, Repr

structure Config.Entry where
  template : String := "- {{ text }}{% if number %} (#{{ number }}){% endif %}"
  deriving DecidableEq, Repr

structure Config.Commit where
  authorName : String := "github-actions"
  authorEmail : String := "github-actions@github.com"
  message : String := "Update changelog{% if number %} for #{{ number }}{% endif %}"
  deriving DecidableEq, Repr

/-- Where the commit is pushed, and how often that is tried again after a rebuild. -/
structure Config.Push where
  remote : String := "origin"
  tokenEnv : String := "GITHUB_TOKEN"
  retries : Nat := 0
  deriving DecidableEq, Repr

structure Config where
  changelog : Config.Changelog := {}
  extraction : Config.Extraction := {}
  entry : Config.Entry := {}
  commit : Config.Commit := {}
  push : Config.Push := {}
  deriving DecidableEq, Repr

namespace Config

def fileName : Path := ⟨".mergelog.toml"⟩

inductive Fault where
  | pathEmpty
  | pathAbsolute
  | pathGoesUp
  | fieldsMissing
  | fieldUnusable (field : String)
  | templateEmpty
  | authorNameEmpty
  | authorEmailInvalid
  | messageEmpty
  | remoteEmpty
  | tooManyRetries
  deriving DecidableEq, Repr

def Fault.message : Fault → String
  | pathEmpty => "changelog.path must not be empty"
  | pathAbsolute => "changelog.path must be relative to the repository root"
  | pathGoesUp => "changelog.path must not contain '..'"
  | fieldsMissing => "extraction.fields must list at least one field for the 'fields' rule"
  | fieldUnusable field =>
    "extraction.fields entry '" ++ field ++ "' must be non-empty and contain no ':'"
  | templateEmpty => "entry.template must not be empty"
  | authorNameEmpty => "commit.author_name must not be empty"
  | authorEmailInvalid => "commit.author_email must be an email address"
  | messageEmpty => "commit.message must not be empty"
  | remoteEmpty => "push.remote must not be empty"
  | tooManyRetries => "push.rebase_retries must be at most 10"

def maxRetries : Nat := 10

def Changelog.fault? (c : Changelog) : Option Fault :=
  if c.path.text.isEmpty then some .pathEmpty
  else if c.path.isAbsolute then some .pathAbsolute
  else if .up ∈ c.path.components then some .pathGoesUp
  else none

/-- A field's name must be there and cannot hold a colon, which ends it. -/
def isUsableField (field : String) : Bool := !Text.isBlank field && !field.toList.contains ':'

def Extraction.fault? (c : Extraction) : Option Fault :=
  if c.rule = .fields ∧ c.fields = [] then some .fieldsMissing
  else (c.fields.find? (!isUsableField ·)).map .fieldUnusable

def Entry.fault? (c : Entry) : Option Fault :=
  if Text.isBlank c.template then some .templateEmpty else none

def Commit.fault? (c : Commit) : Option Fault :=
  if Text.isBlank c.authorName then some .authorNameEmpty
  else if !c.authorEmail.toList.contains '@' then some .authorEmailInvalid
  else if Text.isBlank c.message then some .messageEmpty
  else none

def Push.fault? (c : Push) : Option Fault :=
  if Text.isBlank c.remote then some .remoteEmpty
  else if maxRetries < c.retries then some .tooManyRetries
  else none

/-- The first check that fails, in the order of the sections. -/
def fault? (c : Config) : Option Fault :=
  c.changelog.fault? <|> c.extraction.fault? <|> c.entry.fault? <|> c.commit.fault? <|>
    c.push.fault?

def IsValid (c : Config) : Prop := c.fault? = none

end Config

/-- What a description says, by the configured rule or by another. -/
def Config.extract (c : Config) (rule : Option Rule) (description : String) : Option String :=
  MergeNotes.Extraction.unlessMarked c.extraction.skipMarker
    (MergeNotes.Extraction.byRule (rule.getD c.extraction.rule) c.extraction.fields) description

end MergeNotes
