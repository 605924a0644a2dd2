import MergeNotes.Text

namespace MergeNotes

structure Entry where
  words : List (List Char)
  words_ne_nil : words ≠ []
  isWord_of_mem : ∀ w ∈ words, Chars.IsWord w

namespace Entry

@[ext] theorem ext {e f : Entry} (h : e.words = f.words) : e = f := by
  cases e; cases f; cases h; rfl

instance : DecidableEq Entry := fun e f =>
  decidable_of_iff (e.words = f.words) ⟨Entry.ext, congrArg Entry.words⟩

def ofText? (text : String) : Option Entry :=
  if h : Chars.words text.toList = [] then none
  else some ⟨Chars.words text.toList, h, fun _ => Chars.isWord_of_mem_words⟩

/-- The line without its terminator. -/
def line (e : Entry) : List Char := Chars.unwords e.words

def text (e : Entry) : String := String.ofList e.line

end Entry
end MergeNotes
