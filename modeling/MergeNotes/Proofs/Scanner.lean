import MergeNotes.Proofs.Comment

namespace MergeNotes.Extraction.Comment

inductive Place where
  | outside
  | inside

/-- What a reader keeps. Only the first character of an opener is read at once, so that its dashes
may be those of the closer. -/
def scan : Place → List Char → List Char
  | _, [] => []
  | .outside, c :: cs =>
    if opener.isPrefixOf (c :: cs) then scan .inside cs else c :: scan .outside cs
  | .inside, c :: cs =>
    if closer.isPrefixOf (c :: cs) then scan .outside ((c :: cs).drop closer.length)
    else scan .inside cs
termination_by _ cs => cs.length
decreasing_by
  all_goals simp only [List.length_cons, List.length_drop, closer]
  all_goals omega

variable {cs before body inside after : List Char}

theorem scan_outside_of_none (h : Chars.cutAt? opener cs = none) : scan .outside cs = cs := by
  induction cs with
  | nil => rw [scan]
  | cons c cs ih =>
    rw [Chars.cutAt?] at h
    split_ifs at h with hopener
    rw [scan, if_neg hopener, ih (Option.map_eq_none_iff.1 h)]

theorem scan_inside_of_none (h : Chars.cutAt? closer cs = none) : scan .inside cs = [] := by
  induction cs with
  | nil => rw [scan]
  | cons c cs ih =>
    rw [Chars.cutAt?] at h
    split_ifs at h with hcloser
    rw [scan, if_neg hcloser, ih (Option.map_eq_none_iff.1 h)]

theorem scan_inside_of_some (h : Chars.cutAt? closer cs = some (inside, after)) :
    scan .inside cs = scan .outside after := by
  induction cs generalizing inside with
  | nil => cases h
  | cons c cs ih =>
    rw [Chars.cutAt?] at h
    split_ifs at h with hcloser
    · cases h
      rw [scan, if_pos hcloser]
    · obtain ⟨⟨rest, _⟩, hrest, heq⟩ := Option.map_eq_some_iff.1 h
      cases heq
      rw [scan, if_neg hcloser, ih hrest]

/-- The exclamation mark of an opener is part of no closer. -/
theorem scan_outside_opener (body : List Char) :
    scan .outside (opener ++ body) = scan .inside ('-' :: '-' :: body) := by
  have hopener : opener.isPrefixOf ('<' :: '!' :: '-' :: '-' :: body) = true :=
    List.isPrefixOf_iff_prefix.2 (List.prefix_append opener body)
  change scan .outside ('<' :: '!' :: '-' :: '-' :: body) = _
  rw [scan, if_pos hopener, scan, if_neg (by simp [closer])]

theorem scan_outside_of_some (h : Chars.cutAt? opener cs = some (before, body)) :
    scan .outside cs = before ++ scan .inside ('-' :: '-' :: body) := by
  induction cs generalizing before with
  | nil => cases h
  | cons c cs ih =>
    rw [Chars.cutAt?] at h
    split_ifs at h with hopener
    · cases h
      obtain ⟨body, hbody⟩ := List.isPrefixOf_iff_prefix.1 hopener
      rw [← hbody, List.drop_left, scan_outside_opener, List.nil_append]
    · obtain ⟨⟨rest, _⟩, hrest, heq⟩ := Option.map_eq_some_iff.1 h
      cases heq
      rw [scan, if_neg hopener, ih hrest, List.cons_append]

theorem scan_sublist (p : Place) (cs : List Char) : (scan p cs).Sublist cs := by
  fun_induction scan p cs with
  | case1 => exact List.Sublist.refl []
  | case2 c cs _ ih => exact ih.cons c
  | case3 c cs _ ih => exact ih.cons_cons c
  | case4 c cs _ ih => exact ih.trans (List.drop_sublist _ _)
  | case5 c cs _ ih => exact ih.cons c

theorem visible_of_scan_eq (h : scan .outside cs = cs) : ¬opener <:+: cs := by
  induction cs with
  | nil => simp [opener]
  | cons c cs ih =>
    rw [scan] at h
    split_ifs at h with hopener
    -- a text of which something is skipped comes out shorter
    · have hlength := (scan_sublist .inside cs).length_le
      rw [h, List.length_cons] at hlength
      omega
    · rw [List.infix_cons_iff, not_or, ← List.isPrefixOf_iff_prefix]
      exact ⟨hopener, ih (List.cons.inj h).2⟩

/-- What is left of a text without its comments is what a reader keeps who begins outside. It is all
from the text, in its order, and all of the text only if there is no opener in it. -/
theorem strip_eq_scan (cs : List Char) :
    strip cs = scan .outside cs ∧ (strip cs).Sublist cs ∧ (strip cs = cs ↔ ¬opener <:+: cs) := by
  have hscan : strip cs = scan .outside cs := by
    fun_induction strip cs with
    | case1 cs hopener => exact (scan_outside_of_none hopener).symm
    | case2 cs before body hopener hcloser =>
      rw [scan_outside_of_some hopener, scan_inside_of_none hcloser, List.append_nil]
    | case3 cs before body hopener inside after hcloser ih =>
      rw [scan_outside_of_some hopener, scan_inside_of_some hcloser, ih]
  refine ⟨hscan, ?_, ?_, strip_of_visible⟩
  · rw [hscan]
    exact scan_sublist .outside cs
  · intro h
    rw [hscan] at h
    exact visible_of_scan_eq h

example : scan .outside "a-->b<!-->c<!-- d <!-- e -->f<!--g".toList = "a-->bcf".toList := by
  decide +kernel

end MergeNotes.Extraction.Comment
