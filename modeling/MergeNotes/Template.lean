import MergeNotes.Template.Eval
import MergeNotes.Template.Parser

namespace MergeNotes

structure Template where
  parts : List Template.Part

namespace Template

def parse (source : String) : Except Error Template := do
  return ⟨← Parser.parse (Token.scan source.toList)⟩

def render (t : Template) (bindings : List (String × Value)) : Except Error String := do
  let (cs, _) ← runAll ⟨[], bindings⟩ t.parts
  return String.ofList cs

def ofText (s : String) : Value := .text s.toList

def ofOption (f : α → Value) : Option α → Value
  | some a => f a
  | none => .null

def ofNumber (n : UInt64) : Value := .int n.toNat

end Template
end MergeNotes
