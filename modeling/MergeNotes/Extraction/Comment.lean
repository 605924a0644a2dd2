import MergeNotes.Chars.Search

namespace MergeNotes.Extraction.Comment

def opener : List Char := ['<', '!', '-', '-']

def closer : List Char := ['-', '-', '>']

/-- What is left of a text without its comments. A comment runs from `<!--` through the first `-->`
at or after the start of that opener, so that `<!-->` is a whole comment; without such an end it
hides the rest. -/
def strip (cs : List Char) : List Char :=
  match _h : Chars.cutAt? opener cs with
  | none => cs
  | some (before, body) =>
    match _h' : Chars.cutAt? closer ('-' :: '-' :: body) with
    | none => before
    | some (_, after) => before ++ strip after
termination_by cs.length
decreasing_by
  have := Chars.length_of_cutAt? _h
  have := Chars.length_of_cutAt? _h'
  simp only [opener, closer, List.length_cons, List.length_nil] at *
  omega

end MergeNotes.Extraction.Comment
