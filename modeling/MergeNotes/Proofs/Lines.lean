import Mathlib.Data.List.Basic
import Mathlib.Data.List.Induction
import MergeNotes.Changelog

namespace MergeNotes.Chars

/-- The last line, if there is one, has its line feed. -/
def IsFinished (cs : List Char) : Prop := cs = [] ∨ cs.getLast? = some '\n'

theorem isFinished_append_newline (cs : List Char) : IsFinished (cs ++ ['\n']) := by
  right
  simp

theorem IsFinished.tail {c : Char} {cs : List Char} (h : IsFinished (c :: cs)) :
    IsFinished cs := by
  cases cs with
  | nil => exact .inl rfl
  | cons d ds => exact .inr (by simpa [IsFinished] using h)

theorem lines_eq_nil {cs : List Char} : lines cs = [] ↔ cs = [] := by
  fun_cases lines cs <;> simp_all

theorem newline_notMem_of_mem_lines {cs l : List Char} (hl : l ∈ lines cs) : '\n' ∉ l := by
  fun_induction lines cs generalizing l with
  | case1 => cases hl
  | case2 cs ih | case3 cs ih =>
    rcases List.mem_cons.1 hl with rfl | hl
    · exact List.not_mem_nil
    · exact ih hl
  | case4 c cs hn hr hls ih =>
    rw [List.mem_singleton.1 hl, List.mem_singleton]
    exact fun h => hn h.symm
  | case5 c cs hn hr l' ls hls ih =>
    rcases List.mem_cons.1 hl with rfl | hl
    · rw [List.mem_cons, not_or]
      exact ⟨fun h => hn h.symm, ih (hls ▸ List.mem_cons_self)⟩
    · exact ih (hls ▸ List.mem_cons_of_mem l' hl)

theorem isPrefix_of_lines_eq_cons {cs l : List Char} {ls : List (List Char)}
    (h : lines cs = l :: ls) : l <+: cs := by
  fun_induction lines cs generalizing l ls with
  | case1 => cases h
  | case2 | case3 =>
    cases h
    exact List.nil_prefix
  | case4 c cs =>
    cases h
    exact ⟨cs, rfl⟩
  | case5 c cs _ _ k ks hl ih =>
    cases h
    exact List.cons_prefix_cons.2 ⟨rfl, ih hl⟩

theorem isInfix_of_mem_lines {cs l : List Char} (hl : l ∈ lines cs) : l <:+: cs := by
  fun_induction lines cs generalizing l with
  | case1 => cases hl
  | case2 cs ih =>
    rcases List.mem_cons.1 hl with rfl | hl
    · exact List.nil_infix
    · exact List.infix_cons (ih hl)
  | case3 cs ih =>
    rcases List.mem_cons.1 hl with rfl | hl
    · exact List.nil_infix
    · exact List.infix_cons (List.infix_cons (ih hl))
  | case4 c cs =>
    rw [List.mem_singleton.1 hl]
    exact ⟨[], cs, rfl⟩
  | case5 c cs _ _ k ks hls ih =>
    rcases List.mem_cons.1 hl with rfl | hl
    · exact (List.cons_prefix_cons.2 ⟨rfl, isPrefix_of_lines_eq_cons hls⟩).isInfix
    · exact List.infix_cons (ih (hls ▸ List.mem_cons_of_mem k hl))

theorem lines_append {a : List Char} (ha : IsFinished a) (b : List Char) :
    lines (a ++ b) = lines a ++ lines b := by
  fun_induction lines a with
  | case1 => simp
  | case2 cs ih => simp [lines, ih ha.tail]
  | case3 cs ih => simp [lines, ih ha.tail.tail]
  | case4 c cs hn hr hl ih =>
    -- the last line would not be finished
    rw [lines_eq_nil.1 hl] at ha
    simp_all [IsFinished]
  | case5 c cs hn hr l ls hl ih =>
    have hb : lines (cs ++ b) = l :: (ls ++ lines b) := by rw [ih ha.tail, hl]; rfl
    have hr' : ∀ ds, c = '\r' → cs ++ b = '\n' :: ds → False := by
      cases cs with
      | nil => simp [lines] at hl
      | cons d ds => simp_all
    simp [lines, hb]

theorem lines_single {l : List Char} (hn : '\n' ∉ l) (hr : l.getLast? ≠ some '\r') :
    lines (l ++ ['\n']) = [l] := by
  induction l with
  | nil => rfl
  | cons c cs ih =>
    have hc : c ≠ '\n' := fun h => hn (h ▸ List.mem_cons_self)
    have hcs : lines (cs ++ ['\n']) = [cs] := by
      apply ih (fun h => hn (List.mem_cons_of_mem c h))
      cases cs with
      | nil => simp
      | cons d ds => simpa using hr
    have hr' : ∀ ds, c = '\r' → cs ++ ['\n'] = '\n' :: ds → False := by
      rintro ds rfl h
      cases cs with
      | nil => exact hr rfl
      | cons d ds => simp_all
    simp [lines, hcs]

theorem lines_of_notMem {l : List Char} (hn : '\n' ∉ l) (hne : l ≠ []) : lines l = [l] := by
  fun_induction lines l with
  | case1 => exact absurd rfl hne
  | case2 | case3 => simp at hn
  | case4 c cs _ _ hl => rw [lines_eq_nil.1 hl]
  | case5 c cs _ _ k ks hl ih =>
    have hcs : cs ≠ [] := by
      rintro rfl
      cases hl
    rw [ih (fun h => hn (List.mem_cons_of_mem c h)) hcs] at hl
    cases hl
    rfl

theorem lines_return {l : List Char} (hn : '\n' ∉ l) : lines (l ++ ['\r', '\n']) = [l] := by
  induction l with
  | nil => rfl
  | cons c cs ih =>
    have hc : c ≠ '\n' := fun h => hn (h ▸ List.mem_cons_self)
    have hcs := ih fun h => hn (List.mem_cons_of_mem c h)
    have hr : ∀ ds, c = '\r' → cs ++ ['\r', '\n'] = '\n' :: ds → False := by
      rintro ds - h
      cases cs with
      | nil => cases h
      | cons d ds => simp_all
    simp [lines, hcs]

theorem exists_isFinished_append (cs : List Char) :
    ∃ a l, cs = a ++ l ∧ IsFinished a ∧ '\n' ∉ l := by
  induction cs using List.reverseRecOn with
  | nil => exact ⟨[], [], rfl, .inl rfl, List.not_mem_nil⟩
  | append_singleton cs c ih =>
    by_cases hc : c = '\n'
    · exact ⟨cs ++ [c], [], by simp, hc ▸ isFinished_append_newline cs, List.not_mem_nil⟩
    · obtain ⟨a, l, rfl, ha, hl⟩ := ih
      exact ⟨a, l ++ [c], by simp, ha, by simp [hl, Ne.symm hc]⟩

/-- Finishing a text leaves its last line as it is, without a carriage return at its end. -/
theorem lines_append_newline {cs : List Char} (h : ¬IsFinished cs) :
    ∃ ls l, lines cs = ls ++ [l] ∧
      (cs.getLast? ≠ some '\r' → lines (cs ++ ['\n']) = ls ++ [l]) ∧
      (cs.getLast? = some '\r' → ∃ k, l = k ++ ['\r'] ∧ lines (cs ++ ['\n']) = ls ++ [k]) := by
  obtain ⟨a, l, rfl, ha, hl⟩ := exists_isFinished_append cs
  have hne : l ≠ [] := by
    rintro rfl
    exact h (by rwa [List.append_nil])
  have hlast : (a ++ l).getLast? = l.getLast? := List.getLast?_append_of_ne_nil a hne
  refine ⟨lines a, l, ?_, fun hr => ?_, fun hr => ?_⟩
  · rw [lines_append ha, lines_of_notMem hl hne]
  · rw [List.append_assoc, lines_append ha, lines_single hl (hlast ▸ hr)]
  · rw [hlast] at hr
    obtain ⟨k, rfl⟩ := List.getLast?_eq_some_iff.1 hr
    refine ⟨k, rfl, ?_⟩
    rw [List.append_assoc, lines_append ha, List.append_assoc]
    exact congrArg (lines a ++ ·) (lines_return fun hk => hl (List.mem_append_left _ hk))

theorem trimStartBy_cons {p : Char → Bool} {c : Char} (h : p c = false) (cs : List Char) :
    trimStartBy p (c :: cs) = c :: cs := by
  simp [trimStartBy, h]

theorem trimEndBy_concat {p : Char → Bool} {c : Char} (h : p c = false) (cs : List Char) :
    trimEndBy p (cs ++ [c]) = cs ++ [c] := by
  simp [trimEndBy, h]

theorem unwords_cons_cons (w v : List Char) (ws : List (List Char)) :
    unwords (w :: v :: ws) = w ++ ' ' :: unwords (v :: ws) := by
  simp [unwords]

theorem exists_unwords_eq_cons {ws : List (List Char)} (hne : ws ≠ [])
    (hws : ∀ w ∈ ws, IsWord w) : ∃ c cs, unwords ws = c :: cs ∧ isBlank c = false := by
  obtain ⟨w, vs, rfl⟩ := List.exists_cons_of_ne_nil hne
  obtain ⟨hw, hblank⟩ := hws w List.mem_cons_self
  obtain ⟨c, cs, rfl⟩ := List.exists_cons_of_ne_nil hw
  have hc : isBlank c = false := hblank c List.mem_cons_self
  cases vs with
  | nil => exact ⟨c, cs, by simp [unwords], hc⟩
  | cons v vs => exact ⟨c, _, unwords_cons_cons _ v vs, hc⟩

theorem exists_unwords_eq_concat {ws : List (List Char)} (hne : ws ≠ [])
    (hws : ∀ w ∈ ws, IsWord w) : ∃ cs c, unwords ws = cs ++ [c] ∧ isBlank c = false := by
  induction ws with
  | nil => exact absurd rfl hne
  | cons w ws ih =>
    cases ws with
    | nil =>
      obtain ⟨hw, hblank⟩ := hws w List.mem_cons_self
      refine ⟨w.dropLast, w.getLast hw, ?_, hblank _ (List.getLast_mem hw)⟩
      simp [unwords, List.dropLast_append_getLast hw]
    | cons v vs =>
      obtain ⟨cs, c, h, hc⟩ := ih (by simp) (fun u hu => hws u (List.mem_cons_of_mem w hu))
      exact ⟨w ++ ' ' :: cs, c, by rw [unwords_cons_cons, h]; simp, hc⟩

theorem mem_unwords {ws : List (List Char)} (hws : ∀ w ∈ ws, IsWord w) {c : Char}
    (hc : c ∈ unwords ws) : c = ' ' ∨ isBlank c = false := by
  induction ws with
  | nil => simp [unwords] at hc
  | cons w ws ih =>
    have hw : c ∈ w → isBlank c = false := (hws w (by simp)).2 c
    cases ws with
    | nil => exact .inr (hw (by simpa [unwords] using hc))
    | cons v vs =>
      rw [unwords_cons_cons, List.mem_append, List.mem_cons] at hc
      rcases hc with hc | rfl | hc
      · exact .inr (hw hc)
      · exact .inl rfl
      · exact ih (fun u hu => hws u (List.mem_cons_of_mem w hu)) hc

end MergeNotes.Chars

namespace MergeNotes.Entry

@[simp] theorem toList_text (e : Entry) : e.text.toList = e.line := String.toList_ofList

theorem exists_line_eq_cons (e : Entry) : ∃ c cs, e.line = c :: cs ∧ Chars.isBlank c = false :=
  Chars.exists_unwords_eq_cons e.words_ne_nil e.isWord_of_mem

theorem exists_line_eq_concat (e : Entry) :
    ∃ cs c, e.line = cs ++ [c] ∧ Chars.isBlank c = false :=
  Chars.exists_unwords_eq_concat e.words_ne_nil e.isWord_of_mem

theorem newline_not_mem_line (e : Entry) : '\n' ∉ e.line := by
  intro h
  rcases Chars.mem_unwords e.isWord_of_mem h with h | h <;> revert h <;> decide

theorem lines_line (e : Entry) : Chars.lines (e.line ++ ['\n']) = [e.line] := by
  apply Chars.lines_single e.newline_not_mem_line
  obtain ⟨cs, c, h, hc⟩ := e.exists_line_eq_concat
  rw [h, List.getLast?_concat]
  rintro ⟨⟩
  revert hc
  decide

theorem trim_line (e : Entry) : Chars.trim e.line = e.line := by
  obtain ⟨c, cs, hcons, hc⟩ := e.exists_line_eq_cons
  obtain ⟨ds, d, hconcat, hd⟩ := e.exists_line_eq_concat
  rw [Chars.trim, Chars.trimBy, hcons, Chars.trimStartBy_cons hc, ← hcons, hconcat,
    Chars.trimEndBy_concat hd]

@[simp] theorem trim_text (e : Entry) : Text.trim e.text = e.text := by
  rw [Text.trim, toList_text, trim_line]
  rfl

@[simp] theorem isBlank_text (e : Entry) : Text.isBlank e.text = false := by
  obtain ⟨c, cs, h, hc⟩ := e.exists_line_eq_cons
  simp [Text.isBlank, Chars.allBlank, h, hc]

def ours : Entry where
  words := Chars.words "- Ours".toList
  words_ne_nil := by decide +kernel
  isWord_of_mem _ := Chars.isWord_of_mem_words

end MergeNotes.Entry
