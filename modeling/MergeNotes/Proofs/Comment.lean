import MergeNotes.Extraction.Comment
import MergeNotes.Proofs.Occurrences

namespace MergeNotes.Extraction.Comment

open Chars (Straddles)

variable {cs as bs before comment body inside after x y : List Char}

theorem strip_of_none (h : Chars.cutAt? opener cs = none) : strip cs = cs := by
  rw [strip]
  split
  · rfl
  · simp_all

theorem strip_of_open (h : Chars.cutAt? opener cs = some (before, body))
    (h' : Chars.cutAt? closer ('-' :: '-' :: body) = none) : strip cs = before := by
  rw [strip]
  split
  · simp_all
  · split <;> simp_all

theorem strip_of_closed (h : Chars.cutAt? opener cs = some (before, body))
    (h' : Chars.cutAt? closer ('-' :: '-' :: body) = some (inside, after)) :
    strip cs = before ++ strip after := by
  rw [strip]
  split
  · simp_all
  · split <;> simp_all

/-- A whole comment: an opener that the first closer at or after its start ends. -/
def IsComment (comment : List Char) : Prop :=
  opener <+: comment ∧ ∃ inside, Chars.cutAt? closer comment = some (inside, [])

/-- Every comment that is opened in the text is closed in it. -/
inductive IsClosed : List Char → Prop
  | visible {cs : List Char} : ¬opener <:+: cs → IsClosed cs
  | comment {before comment after : List Char} : ¬opener <:+: before → IsComment comment →
      IsClosed after → IsClosed (before ++ (comment ++ after))

/-- An opener between `x` and `y` of which a comment separates the first part from the rest. -/
def IsSpliced (cs x y : List Char) : Prop :=
  ∃ head comment rest u v, cs = head ++ (comment ++ rest) ∧ IsClosed head ∧ IsComment comment ∧
    u ≠ [] ∧ v ≠ [] ∧ u ++ v = opener ∧ strip head = x ++ u ∧ strip rest = v ++ y

/-- The closer is looked for among the dashes of the opener too. -/
theorem cutAt?_closer_opener (body : List Char) :
    Chars.cutAt? closer (opener ++ body) =
      (Chars.cutAt? closer ('-' :: '-' :: body)).map
        fun (inside, after) => ('<' :: '!' :: inside, after) := by
  have hopener : opener ++ body = ['<', '!'] ++ ('-' :: '-' :: body) := rfl
  have hborder : ¬Straddles closer ['<', '!'] ('-' :: '-' :: body) := by
    rintro ⟨u, v, hu, -, hcloser, hsuffix, -⟩
    obtain ⟨c, u, rfl⟩ := List.exists_cons_of_ne_nil hu
    -- a closer begins with a dash, and the opener has none among its first two characters
    have hc : c = '-' := (List.cons.inj hcloser).1
    simpa [hc] using hsuffix.subset List.mem_cons_self
  rw [hopener, Chars.cutAt?_append_of_absent (by decide) hborder]
  rfl

theorem exists_isComment (h : Chars.cutAt? closer ('-' :: '-' :: body) = some (inside, after)) :
    ∃ comment, IsComment comment ∧ opener ++ body = comment ++ after := by
  have hcut : Chars.cutAt? closer (opener ++ body) = some ('<' :: '!' :: inside, after) := by
    rw [cutAt?_closer_opener, h]
    rfl
  have htext := Chars.append_of_cutAt? hcut
  refine ⟨'<' :: '!' :: inside ++ closer, ⟨?_, _, Chars.cutAt?_of_cutAt? hcut []⟩, htext.symm⟩
  refine List.prefix_of_prefix_length_le ⟨body, rfl⟩ ⟨after, htext⟩ ?_
  simp only [opener, closer, List.cons_append, List.length_cons, List.length_append]
  omega

theorem IsComment.head?_notMem (hc : IsComment comment) (rest : List Char) :
    ∀ c ∈ (comment ++ rest).head?, c ∉ opener.tail := by
  obtain ⟨⟨body, rfl⟩, -⟩ := hc
  intro c hhead
  obtain rfl : '<' = c := Option.some.inj hhead
  decide

theorem IsComment.not_straddles (hc : IsComment comment) (as rest : List Char) :
    ¬Straddles opener as (comment ++ rest) :=
  Chars.not_straddles_of_head? (hc.head?_notMem rest)

theorem IsComment.strip_append (hc : IsComment comment) (rest : List Char) :
    strip (comment ++ rest) = strip rest := by
  obtain ⟨⟨body, rfl⟩, inside, hclose⟩ := hc
  have hopen := Chars.cutAt?_pattern_append opener (body ++ rest)
  have hclosed := Chars.cutAt?_append_of_some hclose rest
  rw [List.append_assoc, cutAt?_closer_opener] at hclosed
  obtain ⟨⟨inside, after⟩, hcut, heq⟩ := Option.map_eq_some_iff.1 hclosed
  cases heq
  rw [List.append_assoc, strip_of_closed hopen hcut]
  rfl

theorem strip_of_visible (h : ¬opener <:+: cs) : strip cs = cs :=
  strip_of_none (Chars.cutAt?_eq_none_iff_absent.2 h)

/-- A text without an opener is visible before any other, unless they have one across the border. -/
theorem strip_append_of_visible (has : ¬opener <:+: as) (hborder : ¬Straddles opener as bs) :
    strip (as ++ bs) = as ++ strip bs := by
  have hcut := Chars.cutAt?_append_of_absent has hborder
  cases h : Chars.cutAt? opener bs with
  | none =>
    rw [h] at hcut
    rw [strip_of_none h, strip_of_none hcut]
  | some cut =>
    obtain ⟨before, body⟩ := cut
    rw [h] at hcut
    cases h' : Chars.cutAt? closer ('-' :: '-' :: body) with
    | none => rw [strip_of_open h h', strip_of_open hcut h']
    | some cut =>
      obtain ⟨inside, after⟩ := cut
      rw [strip_of_closed h h', strip_of_closed hcut h', List.append_assoc]

theorem strip_newline (cs : List Char) : strip ('\n' :: cs) = '\n' :: strip cs := by
  have hborder : ¬Straddles opener ['\n'] cs := by
    rintro ⟨u, v, hu, -, hopener, hsuffix, -⟩
    obtain ⟨c, hc⟩ := List.exists_mem_of_ne_nil u hu
    obtain rfl : c = '\n' := by simpa using hsuffix.subset hc
    have hnewline : '\n' ∈ opener := hopener ▸ List.mem_append_left v hc
    exact absurd hnewline (by decide)
  exact strip_append_of_visible (by decide) hborder

theorem strip_comment (hbefore : ¬opener <:+: before) (hc : IsComment comment)
    (rest : List Char) : strip (before ++ (comment ++ rest)) = before ++ strip rest := by
  rw [strip_append_of_visible hbefore (hc.not_straddles before rest), hc.strip_append]

/-- What follows a text with all its comments closed is read on its own, if it does not go on with
an opener. -/
theorem IsClosed.strip_append (has : IsClosed as) (hbs : ∀ c ∈ bs.head?, c ∉ opener.tail) :
    strip (as ++ bs) = strip as ++ strip bs := by
  induction has with
  | visible h =>
    rw [strip_append_of_visible h (Chars.not_straddles_of_head? hbs), strip_of_visible h]
  | @comment before comment after hbefore hc _ ih =>
    rw [List.append_assoc, List.append_assoc, strip_comment hbefore hc, ih,
      strip_comment hbefore hc, List.append_assoc]

theorem IsClosed.strip_append_newline (has : IsClosed as) (bs : List Char) :
    strip (as ++ '\n' :: bs) = strip as ++ '\n' :: strip bs := by
  have hborder : ∀ c ∈ ('\n' :: bs).head?, c ∉ opener.tail := by simp [opener]
  rw [has.strip_append hborder, strip_newline]

theorem IsSpliced.strip_eq (h : IsSpliced cs x y) : strip cs = x ++ (opener ++ y) := by
  obtain ⟨head, comment, rest, u, v, rfl, hhead, hc, -, -, hopener, hx, hy⟩ := h
  rw [hhead.strip_append (hc.head?_notMem rest), hc.strip_append, hx, hy, ← hopener]
  simp only [List.append_assoc]

/-- A comment that follows a closed one splices the text before both. -/
theorem IsSpliced.of_comment (h : IsSpliced after x y) (hbefore : ¬opener <:+: before)
    (hc : IsComment comment) : IsSpliced (before ++ (comment ++ after)) (before ++ x) y := by
  obtain ⟨head, comment', rest, u, v, rfl, hhead, hc', hu, hv, hopener, hx, hy⟩ := h
  refine ⟨before ++ (comment ++ head), comment', rest, u, v, by simp, .comment hbefore hc hhead,
    hc', hu, hv, hopener, ?_, hy⟩
  rw [strip_comment hbefore hc, hx, List.append_assoc]

theorem isSpliced_of_strip_eq (h : strip cs = x ++ (opener ++ y)) : IsSpliced cs x y := by
  have hoccurs (as bs : List Char) : opener <:+: as ++ (opener ++ bs) := ⟨as, bs, by simp⟩
  -- along the comments that are taken out: what stands before the first of them has no opener, so
  -- the opener that is visible comes after it or lies across it
  fun_induction strip cs generalizing x with
  | case1 cs hnone =>
    rw [Chars.cutAt?_eq_none_iff_absent, h] at hnone
    exact absurd (hoccurs x y) hnone
  | case2 cs before body hopen hnone =>
    have hbefore := Chars.absent_of_cutAt? (by decide) hopen
    rw [h] at hbefore
    exact absurd (hoccurs x y) hbefore
  | case3 cs before body hopen inside after hclose ih =>
    have hbefore : ¬opener <:+: before := Chars.absent_of_cutAt? (by decide) hopen
    obtain ⟨comment, hc, hbody⟩ := exists_isComment hclose
    have hcs : cs = before ++ (comment ++ after) := by
      rw [← Chars.append_of_cutAt? hopen, List.append_assoc, hbody]
    rw [hcs]
    rcases Chars.occurrence_cases h with ⟨m, rfl⟩ | ⟨m, rfl, hafter⟩ |
      ⟨u, v, hu, hv, hopener, hsplit, hafter⟩
    · exact absurd (hoccurs x m) hbefore
    · exact (ih hafter).of_comment hbefore hc
    · exact ⟨before, comment, after, u, v, rfl, .visible hbefore, hc, hu, hv, hopener,
        (strip_of_visible hbefore).trans hsplit, hafter⟩

/-- An opener is visible exactly where the end of a comment joins its two parts. -/
theorem strip_eq_append_opener_iff : strip cs = x ++ (opener ++ y) ↔ IsSpliced cs x y :=
  ⟨isSpliced_of_strip_eq, IsSpliced.strip_eq⟩

end MergeNotes.Extraction.Comment
