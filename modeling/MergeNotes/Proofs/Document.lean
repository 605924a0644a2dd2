import MergeNotes.Proofs.Disk
import MergeNotes.Proofs.Lines

namespace MergeNotes.Changelog

open Chars (IsFinished)

def finished (content : String) : String := content ++ separator content

theorem addition_eq (content : String) (e : Entry) :
    content ++ addition content e = finished content ++ (e.text ++ "\n") := by
  simp [addition, finished, String.append_assoc]

theorem isFinished_iff (content : String) :
    (content.isEmpty || decide (content.toList.getLast? = some '\n')) = true ↔
      IsFinished content.toList := by
  simp [IsFinished]

theorem separator_eq_empty {content : String} (h : IsFinished content.toList) :
    separator content = "" :=
  if_pos ((isFinished_iff content).2 h)

theorem isFinished_finished (content : String) : IsFinished (finished content).toList := by
  by_cases h : IsFinished content.toList
  · rwa [finished, separator_eq_empty h, String.append_empty]
  · have hs : separator content = "\n" := if_neg (mt (isFinished_iff content).1 h)
    rw [finished, hs, String.toList_append]
    exact Chars.isFinished_append_newline _

theorem lines_append_addition (content : String) (e : Entry) :
    Text.lines (content ++ addition content e) = Text.lines (finished content) ++ [e.text] := by
  simp only [Text.lines, addition_eq, String.toList_append, Entry.toList_text]
  rw [Chars.lines_append (isFinished_finished content)]
  change List.map _ (_ ++ Chars.lines (e.line ++ ['\n'])) = _
  rw [Entry.lines_line, List.map_append]
  rfl

def extended (content : String) (entries : List Entry) : String :=
  entries.foldl (fun text e => text ++ addition text e) content

theorem extended_concat (content : String) (entries : List Entry) (e : Entry) :
    extended content (entries ++ [e]) =
      extended content entries ++ addition (extended content entries) e := by
  rw [extended, List.foldl_append]
  rfl

theorem isFinished_append_addition (content : String) (e : Entry) :
    IsFinished (content ++ addition content e).toList := by
  rw [addition_eq, ← String.append_assoc, String.toList_append]
  exact Chars.isFinished_append_newline _

theorem finished_eq {content : String} (h : IsFinished content.toList) :
    finished content = content := by
  rw [finished, separator_eq_empty h, String.append_empty]

/-- Where the last line is finished, entries are added one line after the other. -/
theorem extended_of_isFinished {content : String} (h : IsFinished content.toList)
    (entries : List Entry) :
    extended content entries = content ++ String.join (entries.map fun e => e.text ++ "\n") := by
  induction entries generalizing content with
  | nil => simp [extended]
  | cons e es ih =>
    have hes := ih (isFinished_append_addition content e)
    rw [extended, List.foldl_cons, ← extended, hes, addition_eq, finished_eq h,
      List.map_cons, String.join_cons, String.append_assoc]

/-- The first entry that is added finishes the last line. -/
theorem extended_finished (content : String) {entries : List Entry} (h : entries ≠ []) :
    extended (finished content) entries = extended content entries := by
  obtain ⟨e, es, rfl⟩ := List.exists_cons_of_ne_nil h
  rw [extended, extended, List.foldl_cons, List.foldl_cons, addition_eq, addition_eq,
    finished_eq (isFinished_finished content)]

theorem lines_extended {content : String} (h : IsFinished content.toList)
    (entries : List Entry) :
    Text.lines (extended content entries) = Text.lines content ++ entries.map Entry.text := by
  induction entries generalizing content with
  | nil => simp [extended]
  | cons e es ih =>
    have hes := ih (isFinished_append_addition content e)
    rw [extended, List.foldl_cons, ← extended, hes, lines_append_addition, finished_eq h,
      List.append_assoc]
    rfl

theorem lastLine?_append_addition (content : String) (e : Entry) :
    lastLine? (content ++ addition content e) = some e.text := by
  simp [lastLine?, lines_append_addition]

theorem endsWith_text (e : Entry) : endsWith (some e.text) e = true := by
  simp [endsWith]

theorem endsWith_recorded (content : String) (e : Entry) :
    endsWith (lastLine? (recorded content e)) e = true := by
  unfold recorded
  split
  · assumption
  · rw [lastLine?_append_addition, endsWith_text]

theorem addition_ne_empty (content : String) (e : Entry) : addition content e ≠ "" := by
  simp [addition]

theorem recorded_of_endsWith {content : String} {e : Entry}
    (h : endsWith (lastLine? content) e = true) : recorded content e = content :=
  if_pos h

theorem recorded_of_not_endsWith {content : String} {e : Entry}
    (h : ¬endsWith (lastLine? content) e = true) :
    recorded content e = content ++ addition content e :=
  if_neg h

theorem recorded_ne_iff {content : String} {e : Entry} :
    recorded content e ≠ content ↔ endsWith (lastLine? content) e = false := by
  by_cases h : endsWith (lastLine? content) e = true
  · simp [recorded_of_endsWith h, h]
  · simp [recorded_of_not_endsWith h, addition_ne_empty, h]

end MergeNotes.Changelog

namespace MergeNotes

theorem fromUTF8?_eq_some {b : ByteArray} {s : String} :
    String.fromUTF8? b = some s ↔ s.toUTF8 = b := by
  rw [String.toUTF8_eq_toByteArray]
  unfold String.fromUTF8?
  constructor
  · intro h
    split_ifs at h
    cases h
    rfl
  · rintro rfl
    rw [dif_pos s.isValidUTF8]
    rfl

/-- What there is at a path: the bytes of a file that can be read, or no file at its location. -/
def Disk.Holds (d : Disk) (p : Path) : Option ByteArray → Prop
  | some b => d.read p = .ok b
  | none => d.fileAt? (d.locate p) = none

theorem Disk.Holds.fileAt? {d : Disk} {p : Path} {file : Option ByteArray}
    (h : d.Holds p file) : d.fileAt? (d.locate p) = file := by
  cases file with
  | some b => exact (read_eq_ok.1 h).2
  | none => exact h

theorem Disk.Holds.toOption_read {d : Disk} {p : Path} {file : Option ByteArray}
    (h : d.Holds p file) : (d.read p).toOption = file := by
  cases file with
  | some b =>
    have hb : d.read p = .ok b := h
    rw [hb]
    rfl
  | none =>
    cases hr : d.read p with
    | error err => rfl
    | ok b =>
      have hf := (read_eq_ok.1 hr).2
      rw [h.fileAt?] at hf
      cases hf

namespace Changelog

variable {d d' : Disk} {p : Path} {e : Entry} {content : String} {file : Option ByteArray}

/-- The text of a document, unless its file is no text; a missing file has none. -/
def text? : Option ByteArray → Option String
  | some b => String.fromUTF8? b
  | none => some ""

theorem readText_eq_ok : d.readText p = .ok content ↔ d.read p = .ok content.toUTF8 := by
  rw [Disk.readText, bind_eq_ok]
  constructor
  · rintro ⟨b, hb, h⟩
    split at h
    · cases h
      rw [hb, fromUTF8?_eq_some.1 (by assumption)]
    · cases h
  · intro h
    refine ⟨_, h, ?_⟩
    rw [fromUTF8?_eq_some.2 rfl]

theorem readFile_eq_ok (hfile : d.Holds p file) (h : readFile d p = .ok content) :
    text? file = some content := by
  cases file with
  | some b =>
    have hb : d.read p = .ok b := hfile
    cases hs : String.fromUTF8? b with
    | some s =>
      have hr : d.readText p = .ok s := readText_eq_ok.2 (by rw [hb, fromUTF8?_eq_some.1 hs])
      rw [readFile, hr] at h
      cases h
      exact hs
    | none => simp [readFile, Disk.readText, hb, hs, bind, Except.bind] at h
  | none =>
    unfold readFile at h
    split at h
    · cases h
      rfl
    · -- nothing can be read where there is no file
      have hf := (Disk.read_eq_ok.1 (readText_eq_ok.1 h)).2
      rw [hfile.fileAt?] at hf
      cases hf

theorem readLastLine_eq_ok {last : Option String} (h : readLastLine d p = .ok last) :
    ∃ content, readFile d p = .ok content ∧ lastLine? content = last := by
  obtain ⟨content, hc, h⟩ := bind_eq_ok.1 h
  cases h
  exact ⟨content, hc, rfl⟩

theorem toUTF8_of_text? (h : text? file = some content) :
    file.getD .empty = content.toUTF8 := by
  cases file with
  | none => cases h; rfl
  | some b => exact (fromUTF8?_eq_some.1 h).symm

theorem text?_toUTF8 {text : String} (h : text? (some content.toUTF8) = some text) :
    text = content := by
  rw [text?, fromUTF8?_eq_some.2 rfl] at h
  exact (Option.some.inj h).symm

theorem text?_map_toUTF8 {text : Option String}
    (h : text? (text.map String.toUTF8) = some content) : content = text.getD "" := by
  cases text with
  | none => cases h; rfl
  | some s => exact text?_toUTF8 h

theorem evolves_append (d : Disk) (p : Path) (e : Entry) :
    Disk.Evolves {d.locate p} d (append d p e).2 := by
  unfold append
  split
  · exact .refl _ d
  have hparents := (d.evolves_makeParents p).mono (Set.empty_subset {d.locate p})
  split
  · rename_i hm
    rwa [hm] at hparents
  · rename_i hm
    rw [hm] at hparents
    split
    · exact hparents
    · have happend := (Disk.append_eq_ok (by assumption)).1
      rw [hparents.locate] at happend
      exact hparents.trans happend

theorem append_eq_ok (hfile : d.Holds p file) (h : append d p e = (.ok (), d')) :
    ∃ content, readFile d p = .ok content ∧
      d'.read p = .ok (content ++ addition content e).toUTF8 := by
  unfold append at h
  split at h
  · cases h
  rename_i content hc
  have hparents := d.evolves_makeParents p
  split at h
  · cases h
  rename_i d₁ hm
  rw [hm] at hparents
  split at h
  · cases h
  rename_i d₂ happend
  cases h
  refine ⟨content, hc, ?_⟩
  -- the directories that are made leave the file as it was read
  rw [(Disk.append_eq_ok happend).2, hparents.locate, hparents.file _ (Set.notMem_empty _),
    hfile.fileAt?, toUTF8_of_text? (readFile_eq_ok hfile hc)]
  simp

/-- Adds an entry to a document file unless it is there as the last line; whether it was added. -/
def record (d : Disk) (p : Path) (e : Entry) : Except Disk.Error Bool × Disk :=
  match readLastLine d p with
  | .error err => (.error err, d)
  | .ok last =>
    if endsWith last e then (.ok false, d)
    else match append d p e with
      | (.error err, d) => (.error err, d)
      | (.ok (), d) => (.ok true, d)

theorem record_eq_ok {added : Bool} (hfile : d.Holds p file)
    (h : record d p e = (.ok added, d')) :
    ∃ content, text? file = some content ∧ d'.read p = .ok (recorded content e).toUTF8 ∧
      (added = true ↔ recorded content e ≠ content) := by
  unfold record at h
  split at h
  · cases h
  rename_i last hlast
  obtain ⟨content, hc, rfl⟩ := readLastLine_eq_ok hlast
  have htext := readFile_eq_ok hfile hc
  refine ⟨content, htext, ?_⟩
  rw [recorded_ne_iff]
  split_ifs at h with hend
  · cases h
    rw [recorded_of_endsWith hend]
    refine ⟨?_, by simp [hend]⟩
    cases file with
    | some b => rw [fromUTF8?_eq_some.1 htext]; exact hfile
    | none =>
      -- a missing file has no last line
      cases htext
      cases hend
  · split at h
    · cases h
    · rename_i happend
      cases h
      obtain ⟨content', hc', hread⟩ := append_eq_ok hfile happend
      obtain rfl : content = content' := by
        rw [hc] at hc'
        cases hc'
        rfl
      rw [recorded_of_not_endsWith hend]
      exact ⟨hread, by simpa using hend⟩

theorem record_of_endsWith (hread : d.read p = .ok content.toUTF8)
    (hend : endsWith (lastLine? content) e = true) : record d p e = (.ok false, d) := by
  have hfile : readFile d p = .ok content := by rw [readFile, readText_eq_ok.2 hread]
  have hlast : readLastLine d p = .ok (lastLine? content) := by
    rw [readLastLine, hfile]
    rfl
  rw [record, hlast]
  exact if_pos hend

end Changelog
end MergeNotes
