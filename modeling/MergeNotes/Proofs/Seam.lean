import MergeNotes.Proofs.Document

namespace MergeNotes.Changelog

variable {d d' : Disk} {p : Path} {e : Entry} {content : String}

theorem toList_finished (h : ¬Chars.IsFinished content.toList) :
    (finished content).toList = content.toList ++ ['\n'] := by
  have hseparator : separator content = "\n" := if_neg (mt (isFinished_iff content).1 h)
  rw [finished, hseparator, String.toList_append]
  rfl

theorem lines_finished (hr : content.toList.getLast? ≠ some '\r') :
    Text.lines (finished content) = Text.lines content := by
  by_cases h : Chars.IsFinished content.toList
  · rw [finished_eq h]
  · obtain ⟨ls, l, hlines, hkept, -⟩ := Chars.lines_append_newline h
    rw [Text.lines, toList_finished h, hkept hr, ← hlines, Text.lines]

theorem lines_finished_return (hr : content.toList.getLast? = some '\r') :
    ∃ init line, Text.lines content = init ++ [line ++ "\r"] ∧
      Text.lines (finished content) = init ++ [line] := by
  have h : ¬Chars.IsFinished content.toList := by
    rintro (hnil | hlast)
    · rw [hnil] at hr
      cases hr
    · rw [hr] at hlast
      exact absurd hlast (by decide)
  obtain ⟨ls, _, hlines, -, hlost⟩ := Chars.lines_append_newline h
  obtain ⟨k, rfl, hfinished⟩ := hlost hr
  refine ⟨ls.map String.ofList, String.ofList k, ?_, ?_⟩
  · rw [Text.lines, hlines, List.map_append]
    simp
  · rw [Text.lines, toList_finished h, hfinished, List.map_append]
    rfl

theorem readLines_of_read (h : d.read p = .ok content.toUTF8) :
    readLines d p = .ok (Text.lines content) := by
  rw [readLines, readFile, readText_eq_ok.2 h]
  rfl

/-- Adding an entry to a document adds a line after the lines that are there, exactly unless the
last of them has no terminator and ends in a carriage return: that one is lost. Either way the entry
is the last line then. -/
theorem readLines_append_iff {file : Option String} (hfile : d.Holds p (file.map String.toUTF8))
    (h : append d p e = (.ok (), d')) :
    readLastLine d' p = .ok (some e.text) ∧
      ∃ before, readLines d p = .ok before ∧
        (readLines d' p = .ok (before ++ [e.text]) ↔
          (file.getD "").toList.getLast? ≠ some '\r') ∧
        ((file.getD "").toList.getLast? = some '\r' → ∃ init line,
          before = init ++ [line ++ "\r"] ∧ readLines d' p = .ok (init ++ [line, e.text])) := by
  obtain ⟨content, hcontent, hread⟩ := append_eq_ok hfile h
  obtain rfl : content = file.getD "" := text?_map_toUTF8 (readFile_eq_ok hfile hcontent)
  have hbefore : readLines d p = .ok (Text.lines (file.getD "")) := by
    rw [readLines, hcontent]
    rfl
  have hafter := readLines_of_read hread
  rw [lines_append_addition] at hafter
  refine ⟨?_, _, hbefore, ?_, ?_⟩
  · rw [readLastLine, readFile, readText_eq_ok.2 hread]
    exact congrArg Except.ok (lastLine?_append_addition _ e)
  · rw [hafter]
    refine ⟨?_, fun hr => by rw [lines_finished hr]⟩
    intro heq hr
    -- the line that lost its carriage return would be as long as before
    obtain ⟨init, line, hlines, hfinished⟩ := lines_finished_return hr
    have hline : line = line ++ "\r" := by simpa [hlines, hfinished] using heq
    have hlength := congrArg String.length hline
    simp at hlength
  · intro hr
    obtain ⟨init, line, hlines, hfinished⟩ := lines_finished_return hr
    exact ⟨init, line, hlines, by rw [hafter, hfinished, List.append_assoc]; rfl⟩

def holding (content : String) : Disk := ⟨[(["CHANGELOG.md".toList], .file content.toUTF8)], []⟩

theorem readLines_append_iff_unterminated :
    ∃ d', append (holding "# Notes\r\n- Theirs") ⟨"CHANGELOG.md"⟩ .ours = (.ok (), d') ∧
      readLines d' ⟨"CHANGELOG.md"⟩ = .ok ["# Notes", "- Theirs", "- Ours"] := by
  have hfile : (holding "# Notes\r\n- Theirs").Holds ⟨"CHANGELOG.md"⟩
      ((some "# Notes\r\n- Theirs").map String.toUTF8) := by
    show (holding "# Notes\r\n- Theirs").read ⟨"CHANGELOG.md"⟩ =
      .ok "# Notes\r\n- Theirs".toUTF8
    decide +kernel
  have hlines : readLines (holding "# Notes\r\n- Theirs") ⟨"CHANGELOG.md"⟩ =
      .ok ["# Notes", "- Theirs"] := by decide +kernel
  have hadded : (append (holding "# Notes\r\n- Theirs") ⟨"CHANGELOG.md"⟩ .ours).1 = .ok () := by
    decide +kernel
  obtain ⟨-, before, hbefore, hiff, -⟩ := readLines_append_iff hfile (Prod.ext hadded rfl)
  rw [hlines] at hbefore
  cases hbefore
  exact ⟨_, Prod.ext hadded rfl, hiff.2 (by decide +kernel)⟩

/-- The carriage return at the end of what was there is gone. -/
theorem readLines_append_lost :
    ∃ d', append (holding "# Notes\n- Theirs\r") ⟨"CHANGELOG.md"⟩ .ours = (.ok (), d') ∧
      readLines (holding "# Notes\n- Theirs\r") ⟨"CHANGELOG.md"⟩ =
        .ok ["# Notes", "- Theirs\r"] ∧
      readLines d' ⟨"CHANGELOG.md"⟩ = .ok ["# Notes", "- Theirs", "- Ours"] := by
  have hadded : (append (holding "# Notes\n- Theirs\r") ⟨"CHANGELOG.md"⟩ .ours).1 = .ok () := by
    decide +kernel
  exact ⟨_, Prod.ext hadded rfl, by decide +kernel, by decide +kernel⟩

end MergeNotes.Changelog
