import MergeNotes.Proofs.FirstLine

namespace MergeNotes.Extraction.Summary

variable {line body description text : List Char}

/-- Number signs that a blank or the end of the text follows. -/
def isHeading (text : List Char) : Bool :=
  text.head? == some '#' && startsBlank (text.dropWhile (· == '#'))

def isBulleted : List Char → Bool
  | c :: d :: _ => isBullet c && Chars.isBlank d
  | _ => false

/-- A text that is a rule or begins with a heading marker or a bullet. -/
def IsMarked (text : List Char) : Prop :=
  text.all isRuleChar = true ∨ isHeading text = true ∨ isBulleted text = true

instance : DecidablePred IsMarked := fun text =>
  inferInstanceAs (Decidable (text.all isRuleChar = true ∨ isHeading text = true ∨
    isBulleted text = true))

/-- A trimmed line with markup that cleaning leaves: markup behind a bullet and its space, a bullet
that another blank follows, or a heading marker behind another one. -/
def LeavesMarkup (line : List Char) : Prop :=
  (∃ c rest, isBullet c = true ∧ dropHeading line = c :: ' ' :: rest ∧
      IsMarked (Chars.trimStart rest)) ∨
    (∃ c d rest, isBullet c = true ∧ Chars.isBlank d = true ∧ d ≠ ' ' ∧
      dropHeading line = c :: d :: rest) ∨
    (isHeading line = true ∧ isHeading (dropHeading line) = true)

theorem dropHeading_of_not_isHeading (h : ¬isHeading line = true) : dropHeading line = line := by
  rw [dropHeading, ← isHeading, if_neg h]

theorem isHeading_cons_of_isBullet {c : Char} (hc : isBullet c = true) (rest : List Char) :
    isHeading (c :: rest) = false := by
  have hne : c ≠ '#' := by
    rintro rfl
    cases hc
  simp [isHeading, hne]

theorem isBulleted_iff : isBulleted text = true ↔
    ∃ c d rest, isBullet c = true ∧ Chars.isBlank d = true ∧ text = c :: d :: rest := by
  constructor
  · intro h
    fun_cases isBulleted text with
    | case1 c d rest =>
      obtain ⟨hc, hd⟩ := Bool.and_eq_true_iff.1 h
      exact ⟨c, d, rest, hc, hd, rfl⟩
    | case2 => simp_all [isBulleted]
  · rintro ⟨c, d, rest, hc, hd, rfl⟩
    rw [isBulleted, hc, hd, Bool.and_self]

theorem dropBullet_of_bullet {c : Char} (hc : isBullet c = true) (rest : List Char) :
    dropBullet (c :: ' ' :: rest) = Chars.trimStart rest :=
  if_pos hc

theorem dropBullet_of_ne (h : ∀ c rest, isBullet c = true → body ≠ c :: ' ' :: rest) :
    dropBullet body = body := by
  fun_cases dropBullet body with
  | case1 c rest hc => exact absurd rfl (h c rest hc)
  | case2 => rfl
  | case3 => rfl

/-- Dropping the bullet of a line that is no rule leaves markup behind the bullet and its space, a
bullet with another blank, and a heading marker. -/
theorem isMarked_dropBullet_iff (hall : body.all isRuleChar = false) :
    IsMarked (dropBullet body) ↔
      (∃ c rest, isBullet c = true ∧ body = c :: ' ' :: rest ∧ IsMarked (Chars.trimStart rest)) ∨
        (∃ c d rest, isBullet c = true ∧ Chars.isBlank d = true ∧ d ≠ ' ' ∧
          body = c :: d :: rest) ∨
        isHeading body = true := by
  by_cases hbullet : ∃ c rest, isBullet c = true ∧ body = c :: ' ' :: rest
  · obtain ⟨c, rest, hc, rfl⟩ := hbullet
    rw [dropBullet_of_bullet hc, isHeading_cons_of_isBullet hc]
    constructor
    · exact fun h => .inl ⟨c, rest, hc, rfl, h⟩
    · rintro (⟨_, _, -, heq, h⟩ | ⟨_, d, _, -, -, hd, heq⟩ | h)
      · cases heq
        exact h
      · cases heq
        exact absurd rfl hd
      · cases h
  · push Not at hbullet
    -- without a bullet and its space the line is left as it is
    rw [dropBullet_of_ne hbullet]
    constructor
    · rintro (h | h | h)
      · rw [hall] at h
        cases h
      · exact .inr (.inr h)
      · obtain ⟨c, d, rest, hc, hd, rfl⟩ := isBulleted_iff.1 h
        refine .inr (.inl ⟨c, d, rest, hc, hd, ?_, rfl⟩)
        rintro rfl
        exact hbullet c rest hc rfl
    · rintro (⟨c, rest, hc, heq, -⟩ | ⟨c, d, rest, hc, hd, -, heq⟩ | h)
      · exact absurd heq (hbullet c rest hc)
      · exact .inr (.inr (isBulleted_iff.2 ⟨c, d, rest, hc, hd, heq⟩))
      · exact .inr (.inl h)

theorem isMarked_cleanLine_iff (h : cleanLine line ≠ []) :
    IsMarked (cleanLine line) ↔ LeavesMarkup (Chars.trim line) := by
  have hall : (dropHeading (Chars.trim line)).all isRuleChar = false := by
    rw [Bool.eq_false_iff]
    exact fun hall => h (if_pos hall)
  have hclean : cleanLine line = dropBullet (dropHeading (Chars.trim line)) :=
    if_neg (Bool.eq_false_iff.1 hall)
  -- a line without a heading marker is left as it is and does not get one
  have hheading : isHeading (dropHeading (Chars.trim line)) = true ↔
      isHeading (Chars.trim line) = true ∧ isHeading (dropHeading (Chars.trim line)) = true := by
    refine ⟨fun hsecond => ⟨?_, hsecond⟩, And.right⟩
    by_contra hfirst
    rw [dropHeading_of_not_isHeading hfirst] at hsecond
    exact hfirst hsecond
  rw [hclean, isMarked_dropBullet_iff hall, hheading, LeavesMarkup]

/-- A summary is a rule or begins with a heading marker or a bullet exactly if its line has markup
behind a bullet and its space, a bullet that another blank follows, or two heading markers. -/
theorem extract?_isMarked_iff (h : extract? description = some text) :
    ∃ line, firstLine? (Comment.strip description) = some line ∧ cleanLine line = text ∧
      (IsMarked text ↔ LeavesMarkup (Chars.trim line)) := by
  rw [extract?_eq_firstText?, firstText?_eq_map] at h
  obtain ⟨line, hline, rfl⟩ := Option.map_eq_some_iff.1 h
  have hne : cleanLine line ≠ [] := by simpa using List.find?_some hline
  exact ⟨line, hline, rfl, isMarked_cleanLine_iff hne⟩

/-- A heading marker and a bullet are both taken off, and what looks like markup further on is
text. -/
theorem extract?_isMarked_iff_headed :
    extract? "#\n---\n ## - Add * and --- #\r\n- x".toList = some "Add * and --- #".toList ∧
      ∃ line, cleanLine line = "Add * and --- #".toList ∧ ¬LeavesMarkup (Chars.trim line) := by
  have h : extract? "#\n---\n ## - Add * and --- #\r\n- x".toList =
      some "Add * and --- #".toList := by decide +kernel
  obtain ⟨line, -, htext, hiff⟩ := extract?_isMarked_iff h
  exact ⟨h, line, htext, fun hleaves => absurd (hiff.2 hleaves) (by decide +kernel)⟩

/-- A rule behind a bullet, a bullet with a tab, a bullet behind a bullet and a heading marker
behind another one are all left. -/
theorem extract?_isMarked :
    (extract? "- ---\nAdd export".toList = some "---".toList ∧ IsMarked "---".toList) ∧
      (extract? "-\tAdd export".toList = some "-\tAdd export".toList ∧
        IsMarked "-\tAdd export".toList) ∧
      (extract? "* * *\nAdd export".toList = some "* *".toList ∧ IsMarked "* *".toList) ∧
      extract? "# #\nAdd export".toList = some "#".toList ∧ IsMarked "#".toList := by
  decide +kernel

theorem isInfix_of_extract? (h : extract? description = some text) :
    text <:+: Comment.strip description := by
  obtain ⟨-, line, hline, rfl⟩ := extract?_eq_some h
  have htrim := Chars.isInfix_trim line
  exact ((cleanLine_suffix line).isInfix.trans htrim).trans (Chars.isInfix_of_mem_lines hline)

/-- A summary holds an opener exactly if a comment of the description stands inside one where the
summary is. -/
theorem opener_extract?_iff (h : extract? description = some text) :
    ∃ before after, Comment.strip description = before ++ (text ++ after) ∧
      (Comment.opener <:+: text ↔
        ∃ x y, Comment.IsSpliced description (before ++ x) (y ++ after)) := by
  obtain ⟨before, after, hvisible⟩ := isInfix_of_extract? h
  rw [List.append_assoc] at hvisible
  refine ⟨before, after, hvisible.symm, ?_, ?_⟩
  · rintro ⟨x, y, rfl⟩
    refine ⟨x, y, Comment.strip_eq_append_opener_iff.1 ?_⟩
    rw [← hvisible]
    simp only [List.append_assoc]
  · rintro ⟨x, y, hspliced⟩
    have htext : before ++ (text ++ after) = before ++ ((x ++ (Comment.opener ++ y)) ++ after) := by
      rw [hvisible, hspliced.strip_eq]
      simp only [List.append_assoc]
    rw [List.append_right_inj, List.append_left_inj] at htext
    exact ⟨x, y, by rw [htext, List.append_assoc]⟩

/-- Two comments stand inside the opener, and none that is visible before the second one is left. -/
theorem opener_extract?_iff_twice :
    extract? "* <<!-- a\n -->!<!---->-- b".toList = some "<!-- b".toList ∧
      ∃ before x y after, Comment.IsSpliced "* <<!-- a\n -->!<!---->-- b".toList (before ++ x)
        (y ++ after) := by
  have h : extract? "* <<!-- a\n -->!<!---->-- b".toList = some "<!-- b".toList := by
    decide +kernel
  obtain ⟨before, after, -, hiff⟩ := opener_extract?_iff h
  obtain ⟨x, y, hspliced⟩ := hiff.1 ⟨[], " b".toList, by decide +kernel⟩
  exact ⟨h, before, x, y, after, hspliced⟩

/-- What is left of the description begins with a comment. -/
theorem opener_extract?_left :
    extract? "<<!-- a -->!-- b --> Add export".toList = some "<!-- b --> Add export".toList ∧
      Comment.opener <:+: "<!-- b --> Add export".toList :=
  ⟨by decide +kernel, [], " b --> Add export".toList, by decide +kernel⟩

end MergeNotes.Extraction.Summary
