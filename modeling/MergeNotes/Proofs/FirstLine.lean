import MergeNotes.Proofs.Comment
import MergeNotes.Proofs.Summary

namespace MergeNotes.Extraction.Summary

variable {a cs : List Char}

def firstLine? (cs : List Char) : Option (List Char) :=
  (Chars.lines cs).find? fun line => !(cleanLine line).isEmpty

def firstText? (cs : List Char) : Option (List Char) :=
  ((Chars.lines cs).map cleanLine).find? (!·.isEmpty)

theorem firstText?_eq_map (cs : List Char) : firstText? cs = (firstLine? cs).map cleanLine := by
  rw [firstText?, List.find?_map]
  rfl

theorem extract?_eq_firstText? (description : List Char) :
    extract? description = firstText? (Comment.strip description) := rfl

theorem firstText?_append (ha : Chars.IsFinished a) (b : List Char) :
    firstText? (a ++ b) = (firstText? a).or (firstText? b) := by
  rw [firstText?, Chars.lines_append ha, List.map_append, List.find?_append]
  rfl

theorem cleanLine_return (line : List Char) : cleanLine (line ++ ['\r']) = cleanLine line := by
  rw [cleanLine, Chars.trim_concat (by decide), cleanLine]

/-- Finishing the last line leaves its text alone, also where the line loses a carriage return. -/
theorem firstText?_newline (cs : List Char) : firstText? (cs ++ ['\n']) = firstText? cs := by
  by_cases hcs : Chars.IsFinished cs
  · have hblank : firstText? ['\n'] = none := by decide
    rw [firstText?_append hcs, hblank, Option.or_none]
  · obtain ⟨ls, l, hlines, hkept, hreturn⟩ := Chars.lines_append_newline hcs
    by_cases hlast : cs.getLast? = some '\r'
    · obtain ⟨k, rfl, hfinished⟩ := hreturn hlast
      rw [firstText?, firstText?, hfinished, hlines, List.map_append, List.map_append,
        List.map_singleton, List.map_singleton, cleanLine_return]
    · rw [firstText?, firstText?, hkept hlast, hlines]

/-- The first line of two texts that says something is that of the first text, if there is one and
its comments are closed, whatever the second one is. -/
theorem extract?_newline (ha : Comment.IsClosed a) :
    (∀ b, extract? (a ++ '\n' :: b) = (extract? a).or (extract? b)) ∧
      ∀ text, extract? a = some text → ∀ b, extract? (a ++ '\n' :: b) = some text := by
  have hor (b : List Char) : extract? (a ++ '\n' :: b) = (extract? a).or (extract? b) := by
    rw [extract?_eq_firstText?, ha.strip_append_newline, List.append_cons,
      firstText?_append (Chars.isFinished_append_newline _), firstText?_newline]
    rfl
  refine ⟨hor, fun text htext b => ?_⟩
  rw [hor b, htext, Option.some_or]

/-- A comment over two lines and a rule with a carriage return carry no text, and the comment that
the second text leaves open does not matter. -/
theorem extract?_newline_commented :
    Comment.IsClosed "<!-- Describe\nit. -->\n---\r".toList ∧
      extract? ("<!-- Describe\nit. -->\n---\r".toList ++
        '\n' :: "- Add <!-- an -->export\n<!--".toList) = some "Add export".toList := by
  have hcomment : Comment.IsComment "<!-- Describe\nit. -->".toList :=
    ⟨by decide, "<!-- Describe\nit. ".toList, by decide⟩
  have hrule : Comment.IsClosed "\n---\r".toList := .visible (by decide)
  have hnothing : ¬Comment.opener <:+: [] := by decide
  have hclosed : Comment.IsClosed "<!-- Describe\nit. -->\n---\r".toList :=
    .comment hnothing hcomment hrule
  refine ⟨hclosed, ?_⟩
  rw [(extract?_newline hclosed).1]
  decide +kernel

end MergeNotes.Extraction.Summary
