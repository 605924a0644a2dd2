import Mathlib.Data.List.TakeWhile
import Mathlib.Tactic.Common
import MergeNotes.Entry

namespace MergeNotes.Chars

variable {sep : Char → Bool} {c : Char} {cs as bs pat : List Char}

theorem trimStart_suffix (cs : List Char) : trimStart cs <:+ cs :=
  List.dropWhile_suffix _

theorem isInfix_trim (cs : List Char) : trim cs <:+: cs := by
  have hend := List.reverse_prefix.2 (List.dropWhile_suffix (l := (trimStart cs).reverse) isBlank)
  rw [List.reverse_reverse] at hend
  exact hend.isInfix.trans (trimStart_suffix cs).isInfix

theorem mem_of_mem_trim (h : c ∈ trim cs) : c ∈ cs :=
  (isInfix_trim cs).subset h

theorem isBlank_of_getLast?_trim (h : (trim cs).getLast? = some c) : isBlank c = false := by
  rw [trim, trimBy, trimEndBy, List.getLast?_reverse] at h
  have hfirst := List.head?_dropWhile_not isBlank (trimStart cs).reverse
  rw [show ((trimStart cs).reverse.dropWhile isBlank).head? = some c from h] at hfirst
  simpa using hfirst

theorem trim_concat (hc : isBlank c = true) (cs : List Char) : trim (cs ++ [c]) = trim cs := by
  rw [trim, trim, trimBy, trimBy, trimStartBy, trimStartBy, List.dropWhile_append]
  split_ifs with hcs
  · rw [List.isEmpty_iff.1 hcs]
    simp [hc]
  · simp [trimEndBy, hc]

theorem trim_cons (hc : isBlank c = true) (cs : List Char) : trim (c :: cs) = trim cs := by
  simp [trim, trimBy, trimStartBy, hc]

theorem trim_eq_nil_iff : trim cs = [] ↔ allBlank cs = true := by
  have hstart : (∀ c ∈ trimStart cs, isBlank c = true) ↔ ∀ c ∈ cs, isBlank c = true := by
    refine ⟨fun h c hc => ?_, fun h c hc => h c ((trimStart_suffix cs).subset hc)⟩
    rw [← List.takeWhile_append_dropWhile (p := isBlank) (l := cs), List.mem_append] at hc
    exact hc.elim List.mem_takeWhile_imp (h c)
  rw [trim, trimBy, trimEndBy, List.reverse_eq_nil_iff, List.dropWhile_eq_nil_iff, allBlank,
    List.all_eq_true, ← hstart]
  simp only [List.mem_reverse]
  rfl

theorem pieces_ne_nil (cs : List Char) : pieces sep cs ≠ [] := by
  cases cs with
  | nil => simp [pieces]
  | cons d cs =>
    unfold pieces
    split_ifs
    · simp
    · split <;> simp

theorem pieces_append (hc : sep c = true) (as bs : List Char) :
    pieces sep (as ++ c :: bs) = pieces sep as ++ pieces sep bs := by
  induction as with
  | nil => simp [pieces, hc]
  | cons a as ih =>
    have hne : pieces sep as ≠ [] := pieces_ne_nil as
    obtain ⟨w, ws, hw⟩ := List.exists_cons_of_ne_nil hne
    simp only [List.cons_append, pieces, ih, hw]
    split_ifs <;> rfl

theorem pieces_of_forall {w : List Char} (hw : ∀ d ∈ w, sep d = false) : pieces sep w = [w] := by
  induction w with
  | nil => rfl
  | cons d w ih =>
    rw [List.forall_mem_cons] at hw
    simp [pieces, hw.1, ih hw.2]

theorem pieces_intercalate (hc : sep c = true) {ws : List (List Char)} (hne : ws ≠ [])
    (hws : ∀ w ∈ ws, ∀ d ∈ w, sep d = false) : pieces sep ([c].intercalate ws) = ws := by
  induction ws with
  | nil => exact absurd rfl hne
  | cons w ws ih =>
    rw [List.forall_mem_cons] at hws
    cases ws with
    | nil => simpa using pieces_of_forall hws.1
    | cons v vs =>
      rw [List.intercalate_cons_cons, List.append_assoc, List.singleton_append, pieces_append hc,
        pieces_of_forall hws.1, ih (List.cons_ne_nil v vs) hws.2, List.singleton_append]

theorem exists_mem_pieces_iff :
    (∃ w ∈ pieces sep cs, w ≠ []) ↔ ∃ c ∈ cs, sep c = false := by
  induction cs with
  | nil => simp [pieces]
  | cons d cs ih =>
    rw [pieces]
    cases hd : sep d with
    | true => simpa [hd] using ih
    | false => cases pieces sep cs <;> simp [hd]

theorem words_ne_nil_iff : words cs ≠ [] ↔ ∃ c ∈ cs, isBlank c = false := by
  rw [← exists_mem_pieces_iff, words, ne_eq, List.filter_eq_nil_iff]
  simp

theorem words_append (hc : isBlank c = true) (as bs : List Char) :
    words (as ++ c :: bs) = words as ++ words bs := by
  rw [words, pieces_append hc, List.filter_append]
  rfl

theorem words_of_isWord {w : List Char} (hw : IsWord w) : words w = [w] := by
  rw [words, pieces_of_forall hw.2]
  simp [hw.1]

theorem append_of_cutAt? (h : cutAt? pat cs = some (as, bs)) : as ++ pat ++ bs = cs := by
  induction cs generalizing as with
  | nil =>
    rw [cutAt?] at h
    split_ifs at h with hpat
    cases h
    simpa using hpat
  | cons d cs ih =>
    rw [cutAt?] at h
    split_ifs at h with hpat
    · cases h
      obtain ⟨rest, hrest⟩ := List.isPrefixOf_iff_prefix.1 hpat
      rw [← hrest, List.drop_left]
      rfl
    · obtain ⟨⟨before, after⟩, hcut, heq⟩ := Option.map_eq_some_iff.1 h
      cases heq
      rw [List.cons_append, List.cons_append, ih hcut]

theorem cutAt?_of_notMem (h : c ∉ as) (bs : List Char) :
    cutAt? [c] (as ++ c :: bs) = some (as, bs) := by
  induction as with
  | nil => simp [cutAt?]
  | cons a as ih =>
    rw [List.mem_cons, not_or] at h
    simp [cutAt?, h.1, ih h.2]

theorem cutAt?_eq_none_iff : cutAt? [c] cs = none ↔ c ∉ cs := by
  induction cs with
  | nil => simp [cutAt?]
  | cons d cs ih =>
    rw [cutAt?]
    split_ifs with hpat
    · simp_all
    · simp_all

theorem notMem_of_cutAt? (h : cutAt? [c] cs = some (as, bs)) : c ∉ as := by
  induction cs generalizing as with
  | nil => cases h
  | cons d cs ih =>
    rw [cutAt?] at h
    split_ifs at h with hpat
    · cases h
      exact List.not_mem_nil
    · obtain ⟨⟨before, after⟩, hcut, heq⟩ := Option.map_eq_some_iff.1 h
      cases heq
      have hd : c ≠ d := by simpa using hpat
      rw [List.mem_cons, not_or]
      exact ⟨hd, ih hcut⟩

theorem mem_intercalate {sep : List Char} {xs : List (List Char)}
    (h : c ∈ sep.intercalate xs) : c ∈ sep ∨ ∃ x ∈ xs, c ∈ x := by
  induction xs with
  | nil => simp at h
  | cons x xs ih =>
    cases xs with
    | nil => exact .inr ⟨x, by simp, by simpa using h⟩
    | cons y ys =>
      rw [List.intercalate_cons_cons, List.mem_append, List.mem_append] at h
      rcases h with (h | h) | h
      · exact .inr ⟨x, List.mem_cons_self, h⟩
      · exact .inl h
      · rcases ih h with h | ⟨z, hz, h⟩
        · exact .inl h
        · exact .inr ⟨z, List.mem_cons_of_mem x hz, h⟩

theorem mem_intercalate_of_mem {x : List Char} {xs : List (List Char)} (sep : List Char)
    (hx : x ∈ xs) (hc : c ∈ x) : c ∈ sep.intercalate xs := by
  induction xs with
  | nil => cases hx
  | cons y ys ih =>
    cases ys with
    | nil => simpa [List.mem_singleton.1 hx] using hc
    | cons z zs =>
      rw [List.intercalate_cons_cons, List.mem_append, List.mem_append]
      rcases List.mem_cons.1 hx with rfl | hx
      · exact .inl (.inl hc)
      · exact .inr (ih hx)

end MergeNotes.Chars
