import MergeNotes.CommandLine
import MergeNotes.Proofs.Document
import MergeNotes.Proofs.Report
import MergeNotes.Proofs.Skipped

namespace MergeNotes

namespace Chars

variable {a l cs line : List Char}

/-- The lines that line feeds end, with no regard to carriage returns, and what is left after the
last of them, if anything is. -/
def delimited : List Char → List (List Char)
  | [] => []
  | c :: cs =>
    if c = '\n' then [] :: delimited cs
    else match delimited cs with
      | [] => [[c]]
      | l :: ls => (c :: l) :: ls

theorem delimited_ne_nil (h : cs ≠ []) : delimited cs ≠ [] := by
  obtain ⟨c, cs, rfl⟩ := List.exists_cons_of_ne_nil h
  rw [delimited]
  split_ifs
  · exact List.cons_ne_nil _ _
  · split <;> exact List.cons_ne_nil _ _

theorem delimited_append (ha : IsFinished a) (b : List Char) :
    delimited (a ++ b) = delimited a ++ delimited b := by
  induction a with
  | nil => rfl
  | cons c cs ih =>
    have hcs := ih ha.tail
    by_cases hc : c = '\n'
    · simp [delimited, hc, hcs]
    · -- the last character is a line feed, so there is more than this one
      have hne : cs ≠ [] := by
        rintro rfl
        simp [IsFinished, hc] at ha
      obtain ⟨l, ls, hls⟩ := List.exists_cons_of_ne_nil (delimited_ne_nil hne)
      rw [hls] at hcs
      simp [delimited, hc, hcs, hls]

theorem delimited_of_notMem (hn : '\n' ∉ l) (hne : l ≠ []) : delimited l = [l] := by
  induction l with
  | nil => exact absurd rfl hne
  | cons c cs ih =>
    rw [List.mem_cons, not_or] at hn
    by_cases hcs : cs = []
    · subst hcs
      simp [delimited, Ne.symm hn.1]
    · simp [delimited, Ne.symm hn.1, ih hn.2 hcs]

theorem delimited_newline (hn : '\n' ∉ l) : delimited (l ++ ['\n']) = [l] := by
  induction l with
  | nil => rfl
  | cons c cs ih =>
    rw [List.mem_cons, not_or] at hn
    simp [delimited, Ne.symm hn.1, ih hn.2]

theorem delimited_append_line (hcs : IsFinished cs) (hn : '\n' ∉ line) :
    delimited (cs ++ (line ++ ['\n'])) = delimited cs ++ [line] := by
  rw [delimited_append hcs, delimited_newline hn]

theorem delimited_append_rest (hcs : ¬IsFinished cs) (hn : '\n' ∉ line) :
    ∃ ls l, delimited cs = ls ++ [l] ∧
      delimited (cs ++ (line ++ ['\n'])) = ls ++ [l ++ line] := by
  -- the text is what is finished of it and the start of one more line
  obtain ⟨a, l, rfl, ha, hl⟩ := exists_isFinished_append cs
  have hne : l ≠ [] := by
    rintro rfl
    exact hcs (by rwa [List.append_nil])
  have hline : '\n' ∉ l ++ line := by simp [hl, hn]
  refine ⟨delimited a, l, by rw [delimited_append ha, delimited_of_notMem hl hne], ?_⟩
  rw [List.append_assoc, delimited_append ha, ← List.append_assoc, delimited_newline hline]

end Chars

namespace Text

variable {s line : String}

def delimited (s : String) : List String := (Chars.delimited s.toList).map String.ofList

theorem toList_append_line (s line : String) :
    (s ++ (line ++ "\n")).toList = s.toList ++ (line.toList ++ ['\n']) := by
  rw [String.toList_append, String.toList_append]
  rfl

theorem delimited_append_line (hs : Chars.IsFinished s.toList) (hn : '\n' ∉ line.toList) :
    delimited (s ++ (line ++ "\n")) = delimited s ++ [line] := by
  rw [delimited, toList_append_line, Chars.delimited_append_line hs hn, List.map_append,
    List.map_singleton, String.ofList_toList, delimited]

theorem delimited_append_rest (hs : ¬Chars.IsFinished s.toList) (hn : '\n' ∉ line.toList) :
    ∃ lines last, delimited s = lines ++ [last] ∧
      delimited (s ++ (line ++ "\n")) = lines ++ [last ++ line] := by
  obtain ⟨ls, l, hbefore, hafter⟩ := Chars.delimited_append_rest hs hn
  refine ⟨ls.map String.ofList, String.ofList l, ?_, ?_⟩
  · rw [delimited, hbefore, List.map_append, List.map_singleton]
  · rw [delimited, toList_append_line, hafter, List.map_append, List.map_singleton,
      String.ofList_append, String.ofList_toList]

theorem delimited_append_line_iff (hn : '\n' ∉ line.toList) :
    delimited (s ++ (line ++ "\n")) = delimited s ++ [line] ↔ Chars.IsFinished s.toList := by
  refine ⟨fun h => ?_, fun hs => delimited_append_line hs hn⟩
  by_contra hs
  obtain ⟨lines, last, hbefore, hafter⟩ := delimited_append_rest hs hn
  rw [hbefore, hafter] at h
  simpa using congrArg List.length h

end Text

namespace Update.Outcome

variable {o : Outcome} {d d' : Disk} {p : Path} {content : Option String}

def reportLine (o : Outcome) : String := "json=" ++ o.text

theorem newline_notMem_reportLine (o : Outcome) : '\n' ∉ o.reportLine.toList := by
  rw [reportLine, String.toList_append, List.mem_append, not_or]
  exact ⟨by decide, o.read_text.1⟩

/-- Recording an outcome puts its line at the end of what the file holds; a file that is missing
is made. -/
theorem record_eq_ok (hfile : d.Holds p (content.map String.toUTF8)) (h : o.record p d = .ok d') :
    d'.readText p = .ok (content.getD "" ++ (o.reportLine ++ "\n")) := by
  have hread := (Disk.append_eq_ok (mapError_eq_ok.1 h)).2
  have hbefore : (content.map String.toUTF8).getD .empty = (content.getD "").toUTF8 := by
    cases content <;> rfl
  rw [hfile.fileAt?, hbefore] at hread
  rw [Changelog.readText_eq_ok, hread]
  simp [outputLine, reportLine]

end Update.Outcome

namespace CommandLine.Session

variable {s : Session} {o : Update.Outcome} {h : Git.Host} {file : String} {content : Option String}

/-- Reporting prints an outcome, and it succeeds only if the outcome is recorded. -/
theorem report_eq_done (hfile : s.environment.lookup outputVariable = some file)
    (hdone : (s.report o h).ending = .done) :
    (s.report o h).output = o.text ++ "\n" ∧
      o.record ⟨file⟩ h.disk = .ok (s.report o h).host.disk := by
  rw [report, hfile] at hdone ⊢
  dsimp only at hdone ⊢
  split at hdone
  · exact ⟨rfl, by assumption⟩
  · cases hdone

/-- An outcome is a line of its own in the file, after the lines that are there, exactly if the last
of those is finished. If it is not, the outcome goes on with it. -/
theorem report_delimited_iff (hfile : s.environment.lookup outputVariable = some file)
    (hcontent : h.disk.Holds ⟨file⟩ (content.map String.toUTF8))
    (hdone : (s.report o h).ending = .done) :
    (s.report o h).output = o.text ++ "\n" ∧
      ∃ after, (s.report o h).host.disk.readText ⟨file⟩ = .ok after ∧
        (Text.delimited after = Text.delimited (content.getD "") ++ ["json=" ++ o.text] ↔
          Chars.IsFinished (content.getD "").toList) ∧
        (¬Chars.IsFinished (content.getD "").toList → ∃ lines last,
          Text.delimited (content.getD "") = lines ++ [last] ∧
            Text.delimited after = lines ++ [last ++ ("json=" ++ o.text)]) := by
  obtain ⟨houtput, hrecord⟩ := report_eq_done hfile hdone
  have hline := o.newline_notMem_reportLine
  exact ⟨houtput, _, Update.Outcome.record_eq_ok hcontent hrecord,
    Text.delimited_append_line_iff hline, fun hs => Text.delimited_append_rest hs hline⟩

def collecting (content : String) : Session where
  host := { disk := ⟨[(["output".toList], .file content.toUTF8)], []⟩ }
  environment := [(outputVariable, "output")]
  today := ⟨2024, 5, 1⟩

def collected (content : String) : Result :=
  (collecting content).report (.skipped .noEntry) (collecting content).host

/-- A carriage return at the end of a finished line stays. -/
theorem report_delimited_iff_finished :
    (collected "sum=1\r\n").ending = .done ∧
      ∃ after, (collected "sum=1\r\n").host.disk.readText ⟨"output"⟩ = .ok after ∧
        Text.delimited after = ["sum=1\r", "json=" ++ (Update.Outcome.skipped .noEntry).text] := by
  have hcontent : (collecting "sum=1\r\n").host.disk.Holds ⟨"output"⟩
      ((some "sum=1\r\n").map String.toUTF8) := by
    show (collecting "sum=1\r\n").host.disk.read ⟨"output"⟩ = .ok "sum=1\r\n".toUTF8
    decide +kernel
  have hdone : (collected "sum=1\r\n").ending = .done := by decide +kernel
  obtain ⟨-, after, hafter, hiff, -⟩ := report_delimited_iff rfl hcontent hdone
  exact ⟨hdone, after, hafter, hiff.2 (.inr (by decide +kernel))⟩

/-- The output of an earlier step and the outcome are both lost in one line. -/
theorem report_delimited_joined :
    (collected "sum=1").ending = .done ∧ Text.delimited "sum=1" = ["sum=1"] ∧
      ∃ after, (collected "sum=1").host.disk.readText ⟨"output"⟩ = .ok after ∧
        Text.delimited after = ["sum=1json=" ++ (Update.Outcome.skipped .noEntry).text] :=
  ⟨by decide +kernel, by decide +kernel,
    "sum=1json=" ++ (Update.Outcome.skipped .noEntry).text ++ "\n",
    by decide +kernel, by decide +kernel⟩

end CommandLine.Session
end MergeNotes
