import MergeNotes.Extraction
import MergeNotes.Proofs.Chars
import MergeNotes.Proofs.Lines

namespace MergeNotes.Extraction.Summary

variable {line description text : List Char}

theorem dropHeading_suffix (line : List Char) : dropHeading line <:+ line := by
  unfold dropHeading
  dsimp only
  split_ifs
  · exact (Chars.trimStart_suffix _).trans (List.dropWhile_suffix _)
  · exact List.suffix_rfl

theorem dropBullet_suffix (line : List Char) : dropBullet line <:+ line := by
  unfold dropBullet
  split
  · split_ifs
    · exact (Chars.trimStart_suffix _).trans ((List.suffix_cons _ _).trans (List.suffix_cons _ _))
    · exact List.suffix_rfl
  · exact List.suffix_rfl

theorem cleanLine_suffix (line : List Char) : cleanLine line <:+ Chars.trim line := by
  unfold cleanLine
  dsimp only
  split_ifs
  · exact List.nil_suffix
  · exact (dropBullet_suffix _).trans (dropHeading_suffix _)

theorem isBlank_of_getLast?_cleanLine {c : Char} (h : (cleanLine line).getLast? = some c) :
    Chars.isBlank c = false := by
  obtain ⟨dropped, hdropped⟩ := cleanLine_suffix line
  have hlast : (Chars.trim line).getLast? = some c := by
    rw [← hdropped, List.getLast?_append, h, Option.some_or]
  exact Chars.isBlank_of_getLast?_trim hlast

theorem extract?_eq_some (h : extract? description = some text) :
    text ≠ [] ∧ ∃ line ∈ Chars.lines (Comment.strip description), cleanLine line = text := by
  have hne := List.find?_some h
  obtain ⟨line, hline, rfl⟩ := List.mem_map.1 (List.mem_of_find?_eq_some h)
  exact ⟨by simpa using hne, line, hline, rfl⟩

theorem newline_notMem_extract? (h : extract? description = some text) : '\n' ∉ text := by
  obtain ⟨-, line, hline, rfl⟩ := extract?_eq_some h
  exact fun hmem => Chars.newline_notMem_of_mem_lines hline
    (Chars.mem_of_mem_trim ((cleanLine_suffix line).subset hmem))

theorem exists_mem_extract? (h : extract? description = some text) :
    ∃ c ∈ text, Chars.isBlank c = false := by
  obtain ⟨hne, line, -, rfl⟩ := extract?_eq_some h
  exact ⟨_, List.getLast_mem hne,
    isBlank_of_getLast?_cleanLine (List.getLast?_eq_some_getLast hne)⟩

end MergeNotes.Extraction.Summary
