import MergeNotes.Proofs.Chars

namespace MergeNotes.Chars

variable {pat cs as bs before after : List Char}

/-- An occurrence of the pattern lies across the border of two texts. -/
def Straddles (pat as bs : List Char) : Prop :=
  ∃ u v, u ≠ [] ∧ v ≠ [] ∧ u ++ v = pat ∧ u <:+ as ∧ v <+: bs

theorem not_straddles_of_head? (h : ∀ c ∈ bs.head?, c ∉ pat.tail) : ¬Straddles pat as bs := by
  rintro ⟨u, v, hu, hv, rfl, -, hbs⟩
  obtain ⟨c, v, rfl⟩ := List.exists_cons_of_ne_nil hv
  obtain ⟨d, u, rfl⟩ := List.exists_cons_of_ne_nil hu
  obtain ⟨rest, rfl⟩ := hbs
  exact h c rfl (by simp)

/-- An occurrence in two texts is in the first, in the second, or lies across their border. -/
theorem occurrence_cases {x y : List Char} (h : as ++ bs = x ++ (pat ++ y)) :
    (∃ m, as = x ++ (pat ++ m)) ∨ (∃ m, x = as ++ m ∧ bs = m ++ (pat ++ y)) ∨
      ∃ u v, u ≠ [] ∧ v ≠ [] ∧ u ++ v = pat ∧ as = x ++ u ∧ bs = v ++ y := by
  rcases List.append_eq_append_iff.1 h with ⟨m, hx, hbs⟩ | ⟨u, has, hpat⟩
  · exact .inr (.inl ⟨m, hx, hbs⟩)
  rcases List.append_eq_append_iff.1 hpat with ⟨m, rfl, -⟩ | ⟨v, rfl, hbs⟩
  · exact .inl ⟨m, has⟩
  by_cases hu : u = []
  · subst hu
    exact .inr (.inl ⟨[], by simpa using has.symm, hbs⟩)
  by_cases hv : v = []
  · subst hv
    exact .inl ⟨[], by rw [has]; simp⟩
  · exact .inr (.inr ⟨u, v, hu, hv, rfl, has, hbs⟩)

theorem cutAt?_eq_none_iff_absent : cutAt? pat cs = none ↔ ¬pat <:+: cs := by
  induction cs with
  | nil => cases pat <;> simp [cutAt?]
  | cons c cs ih =>
    rw [cutAt?, List.infix_cons_iff, ← List.isPrefixOf_iff_prefix]
    split_ifs with hpat
    · simp [hpat]
    · simp [hpat, ih]

theorem cutAt?_pattern_append (pat rest : List Char) :
    cutAt? pat (pat ++ rest) = some ([], rest) := by
  cases h : pat ++ rest with
  | nil =>
    obtain ⟨rfl, rfl⟩ := List.append_eq_nil_iff.1 h
    rfl
  | cons c cs =>
    have hpat : pat.isPrefixOf (c :: cs) = true :=
      List.isPrefixOf_iff_prefix.2 (h ▸ List.prefix_append pat rest)
    rw [cutAt?, if_pos hpat, ← h, List.drop_left]

theorem cutAt?_of_cutAt? (h : cutAt? pat cs = some (before, after)) (rest : List Char) :
    cutAt? pat (before ++ (pat ++ rest)) = some (before, rest) := by
  induction cs generalizing before with
  | nil =>
    rw [cutAt?] at h
    split_ifs at h
    cases h
    exact cutAt?_pattern_append pat rest
  | cons c cs ih =>
    rw [cutAt?] at h
    split_ifs at h with hpat
    · cases h
      exact cutAt?_pattern_append pat rest
    · obtain ⟨⟨bs, _⟩, hcut, heq⟩ := Option.map_eq_some_iff.1 h
      cases heq
      have hcs := append_of_cutAt? hcut
      have hstart : ¬pat.isPrefixOf (c :: (bs ++ (pat ++ rest))) = true := by
        rw [List.isPrefixOf_iff_prefix] at hpat ⊢
        intro hstarts
        -- an occurrence at the start would end before what follows the first one
        have hshared : pat <+: c :: (bs ++ pat) := by
          refine List.prefix_of_prefix_length_le hstarts ⟨rest, by simp⟩ ?_
          simp only [List.length_cons, List.length_append]
          omega
        exact hpat (hshared.trans ⟨after, by simp [← hcs]⟩)
      rw [List.cons_append, cutAt?, if_neg hstart, ih hcut]
      rfl

theorem cutAt?_append_of_some (h : cutAt? pat as = some (before, after)) (bs : List Char) :
    cutAt? pat (as ++ bs) = some (before, after ++ bs) := by
  rw [← append_of_cutAt? h, List.append_assoc, List.append_assoc]
  exact cutAt?_of_cutAt? h (after ++ bs)

theorem absent_of_cutAt? (hne : pat ≠ []) (h : cutAt? pat cs = some (before, after)) :
    ¬pat <:+: before := by
  intro hoccurs
  cases hcut : cutAt? pat before with
  | none => exact cutAt?_eq_none_iff_absent.1 hcut hoccurs
  | some cut =>
    obtain ⟨earlier, rest⟩ := cut
    -- an earlier occurrence would be the first of the whole text
    have hearlier := cutAt?_append_of_some hcut (pat ++ after)
    rw [cutAt?_of_cutAt? h, Option.some.injEq, Prod.mk.injEq] at hearlier
    obtain ⟨rfl, -⟩ := hearlier
    have hlength := length_of_cutAt? hcut
    have := List.length_pos_iff.2 hne
    omega

/-- Without an occurrence on the left or across the border the first is the first on the right. -/
theorem cutAt?_append_of_absent (has : ¬pat <:+: as) (hborder : ¬Straddles pat as bs) :
    cutAt? pat (as ++ bs) = (cutAt? pat bs).map fun (before, after) => (as ++ before, after) := by
  induction as with
  | nil => cases h : cutAt? pat bs <;> simp [h]
  | cons c as ih =>
    have hstart : ¬pat.isPrefixOf (c :: (as ++ bs)) = true := by
      rw [List.isPrefixOf_iff_prefix]
      intro hstarts
      rcases List.prefix_or_prefix_of_prefix hstarts (List.prefix_append (c :: as) bs) with
        h | ⟨v, hv⟩
      · exact has h.isInfix
      · have hne : v ≠ [] := by
          rintro rfl
          rw [List.append_nil] at hv
          exact has (hv ▸ List.infix_refl _)
        refine hborder ⟨c :: as, v, List.cons_ne_nil c as, hne, hv, List.suffix_rfl, ?_⟩
        rwa [← hv, ← List.cons_append, List.prefix_append_right_inj] at hstarts
    have hrest : ¬Straddles pat as bs := by
      rintro ⟨u, v, hu, hv, hpat, hsuffix, hstarts⟩
      exact hborder ⟨u, v, hu, hv, hpat, hsuffix.trans (List.suffix_cons c as), hstarts⟩
    rw [List.cons_append, cutAt?, if_neg hstart,
      ih (fun h => has (h.trans (List.infix_cons (List.infix_refl as)))) hrest]
    cases cutAt? pat bs <;> rfl

end MergeNotes.Chars
