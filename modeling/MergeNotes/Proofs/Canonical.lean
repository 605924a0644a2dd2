import MergeNotes.Proofs.Chars
import MergeNotes.Proofs.Document

namespace MergeNotes

namespace Chars

/-- A text and its words in order: blanks belong to no word, and a word goes on up to a blank or to
the end of the text. -/
inductive HasWords : List Char → List (List Char) → Prop
  | nil : HasWords [] []
  | blank {c : Char} {cs : List Char} {ws : List (List Char)} (hc : isBlank c = true)
      (rest : HasWords cs ws) : HasWords (c :: cs) ws
  | word {w cs : List Char} {ws : List (List Char)} (hw : IsWord w)
      (hend : ∀ c ∈ cs.head?, isBlank c = true) (rest : HasWords cs ws) :
      HasWords (w ++ cs) (w :: ws)

def SameWords (as bs : List Char) : Prop := ∃ ws, HasWords as ws ∧ HasWords bs ws

/-- Every blank is a space, and it stands alone between characters that are no blanks. -/
structure IsSingleSpaced (cs : List Char) : Prop where
  eq_space : ∀ c ∈ cs, isBlank c = true → c = ' '
  head_ne : cs.head? ≠ some ' '
  last_ne : cs.getLast? ≠ some ' '
  not_doubled : ¬[' ', ' '] <:+: cs

def isLineBreak (c : Char) : Bool :=
  let n := c.toNat
  (0x0A ≤ n && n ≤ 0x0D) || n == 0x85 || n == 0x2028 || n == 0x2029

variable {c : Char} {cs as bs w : List Char} {ws : List (List Char)}

theorem words_cons (hc : isBlank c = true) (cs : List Char) : words (c :: cs) = words cs :=
  words_append hc [] cs

theorem HasWords.words_eq (h : HasWords cs ws) : words cs = ws := by
  induction h with
  | nil => rfl
  | blank hc _ ih => rw [words_cons hc, ih]
  | @word w cs ws hw hend _ ih =>
    cases cs with
    | nil =>
      obtain rfl : [] = ws := ih
      rw [List.append_nil, words_of_isWord hw]
    | cons d ds =>
      have hd : isBlank d = true := hend d rfl
      rw [words_append hd, words_of_isWord hw, ← words_cons hd ds, ih, List.singleton_append]

theorem exists_hasWords (cs : List Char) : ∃ ws, HasWords cs ws := by
  induction cs with
  | nil => exact ⟨[], .nil⟩
  | cons c cs ih =>
    obtain ⟨ws, h⟩ := ih
    cases hc : isBlank c with
    | true => exact ⟨ws, .blank hc h⟩
    | false =>
      -- the character begins the first word of the rest, or is a word before a blank
      have hword : IsWord [c] := ⟨List.cons_ne_nil c [], List.forall_mem_singleton.2 hc⟩
      cases h with
      | nil => exact ⟨[[c]], .word hword (by simp) .nil⟩
      | blank hd rest => exact ⟨[c] :: ws, .word hword (by simpa using hd) (.blank hd rest)⟩
      | @word w cs ws hw hend rest =>
        have hcw : IsWord (c :: w) := ⟨List.cons_ne_nil c w, List.forall_mem_cons.2 ⟨hc, hw.2⟩⟩
        exact ⟨(c :: w) :: ws, .word hcw hend rest⟩

theorem hasWords_iff : HasWords cs ws ↔ words cs = ws := by
  refine ⟨HasWords.words_eq, ?_⟩
  rintro rfl
  obtain ⟨ws, h⟩ := exists_hasWords cs
  rwa [h.words_eq]

theorem sameWords_iff : SameWords as bs ↔ words as = words bs := by
  simp [SameWords, hasWords_iff, eq_comm]

theorem hasWords_unwords (hws : ∀ w ∈ ws, IsWord w) : HasWords (unwords ws) ws := by
  induction ws with
  | nil => exact .nil
  | cons w ws ih =>
    rw [List.forall_mem_cons] at hws
    cases ws with
    | nil => simpa [unwords] using HasWords.word hws.1 (by simp) .nil
    | cons v vs =>
      rw [unwords_cons_cons]
      exact .word hws.1 (by simp [isBlank]) (.blank (by decide) (ih hws.2))

theorem words_unwords (hws : ∀ w ∈ ws, IsWord w) : words (unwords ws) = ws :=
  (hasWords_unwords hws).words_eq

theorem not_doubled_append (hw : ∀ c ∈ w, isBlank c = false) (h : ¬[' ', ' '] <:+: cs) :
    ¬[' ', ' '] <:+: w ++ cs := by
  induction w with
  | nil => exact h
  | cons c w ih =>
    rw [List.forall_mem_cons] at hw
    rw [List.cons_append, List.infix_cons_iff, not_or, List.cons_prefix_cons]
    refine ⟨?_, ih hw.2⟩
    rintro ⟨rfl, -⟩
    exact absurd hw.1 (by decide)

theorem not_doubled_unwords (hws : ∀ w ∈ ws, IsWord w) : ¬[' ', ' '] <:+: unwords ws := by
  induction ws with
  | nil => simp [unwords]
  | cons w ws ih =>
    rw [List.forall_mem_cons] at hws
    cases ws with
    | nil =>
      have hnil : ¬[' ', ' '] <:+: [] := by simp
      simpa [unwords] using not_doubled_append hws.1.2 hnil
    | cons v vs =>
      rw [unwords_cons_cons]
      refine not_doubled_append hws.1.2 ?_
      obtain ⟨c, cs, hcons, hc⟩ := exists_unwords_eq_cons (List.cons_ne_nil v vs) hws.2
      rw [List.infix_cons_iff, not_or]
      refine ⟨?_, ih hws.2⟩
      rw [hcons, List.cons_prefix_cons, List.cons_prefix_cons]
      rintro ⟨-, rfl, -⟩
      exact absurd hc (by decide)

theorem isSingleSpaced_unwords (hws : ∀ w ∈ ws, IsWord w) : IsSingleSpaced (unwords ws) := by
  have hspace : isBlank ' ' = true := by decide
  rcases eq_or_ne ws [] with rfl | hne
  · exact ⟨by simp [unwords], by simp [unwords], by simp [unwords], by simp [unwords]⟩
  obtain ⟨c, cs, hcons, hc⟩ := exists_unwords_eq_cons hne hws
  obtain ⟨ds, d, hconcat, hd⟩ := exists_unwords_eq_concat hne hws
  refine ⟨fun b hb hblank => ?_, ?_, ?_, not_doubled_unwords hws⟩
  · exact (mem_unwords hws hb).resolve_right (by simp [hblank])
  · rw [hcons, List.head?_cons]
    rintro ⟨⟩
    simp [hspace] at hc
  · rw [hconcat, List.getLast?_concat]
    rintro ⟨⟩
    simp [hspace] at hd

theorem IsSingleSpaced.isLineBreak (h : IsSingleSpaced cs) (hc : c ∈ cs) :
    isLineBreak c = false := by
  by_contra hbreak
  have hblank : isBlank c = true := by
    simp only [Chars.isLineBreak, isBlank, Bool.not_eq_false, Bool.or_eq_true, Bool.and_eq_true,
      decide_eq_true_eq, beq_iff_eq] at hbreak ⊢
    omega
  obtain rfl := h.eq_space c hc hblank
  exact hbreak (by decide)

theorem IsSingleSpaced.isBlank_head (h : IsSingleSpaced (c :: cs)) : isBlank c = false := by
  by_contra hc
  obtain rfl := h.eq_space c List.mem_cons_self (by simpa using hc)
  exact h.head_ne rfl

theorem IsSingleSpaced.behind_space (h : IsSingleSpaced (w ++ ' ' :: cs)) :
    cs ≠ [] ∧ IsSingleSpaced cs := by
  have hlast : (' ' :: cs).getLast? ≠ some ' ' := by
    rw [← List.getLast?_append_of_ne_nil w (List.cons_ne_nil ' ' cs)]
    exact h.last_ne
  cases cs with
  | nil => exact absurd rfl hlast
  | cons c cs =>
    have hsuffix : c :: cs <:+ w ++ ' ' :: c :: cs := ⟨w ++ [' '], by simp⟩
    refine ⟨List.cons_ne_nil c cs, fun d hd => h.eq_space d (hsuffix.subset hd), ?_, ?_,
      fun hdoubled => h.not_doubled (hdoubled.trans hsuffix.isInfix)⟩
    · rintro ⟨⟩
      exact h.not_doubled ⟨w, cs, by simp⟩
    · rwa [List.getLast?_cons_cons] at hlast

theorem IsSingleSpaced.eq_unwords (h : IsSingleSpaced cs) (hws : HasWords cs ws) :
    cs = unwords ws := by
  induction ws generalizing cs with
  | nil =>
    cases hws with
    | nil => rfl
    | blank hc => exact absurd hc (by simp [h.isBlank_head])
  | cons w ws ih =>
    cases hws with
    | blank hc => exact absurd hc (by simp [h.isBlank_head])
    | @word _ cs _ _ hend rest =>
      cases cs with
      | nil =>
        obtain rfl : [] = ws := rest.words_eq
        simp [unwords]
      | cons c cs =>
        have hc : isBlank c = true := hend c rfl
        -- the blank behind the word is a single space, and the rest is spaced in the same way
        obtain rfl := h.eq_space c (by simp) hc
        obtain ⟨hne, hcs⟩ := h.behind_space
        have hrest : HasWords cs ws := by rwa [hasWords_iff, ← words_cons hc cs, ← hasWords_iff]
        obtain rfl := ih hcs hrest
        cases ws with
        | nil => exact absurd rfl hne
        | cons v vs => rw [unwords_cons_cons]

theorem isSingleSpaced_and_hasWords_iff (hws : ∀ w ∈ ws, IsWord w) :
    IsSingleSpaced cs ∧ HasWords cs ws ↔ cs = unwords ws := by
  refine ⟨fun h => h.1.eq_unwords h.2, ?_⟩
  rintro rfl
  exact ⟨isSingleSpaced_unwords hws, hasWords_unwords hws⟩

end Chars

namespace Entry

open Chars (HasWords SameWords IsSingleSpaced IsFinished)

variable {text other : String} {e f : Entry}

theorem ofText?_eq_none_iff {s : String} : ofText? s = none ↔ Text.isBlank s = true := by
  have hwords : Chars.words s.toList = [] ↔ Text.isBlank s = true := by
    rw [← not_iff_not, ← ne_eq, Chars.words_ne_nil_iff, Text.isBlank, Chars.allBlank,
      List.all_eq_true]
    simp
  rw [← hwords, ofText?]
  split_ifs with h <;> simp [h]

theorem ofText?_eq_some_iff : ofText? text = some e ↔ Chars.words text.toList = e.words := by
  unfold ofText?
  split_ifs with h
  · simpa [h] using e.words_ne_nil.symm
  · rw [Option.some_inj, Entry.ext_iff]

theorem elim_ofText? (text : String) :
    (ofText? text).elim [] Entry.words = Chars.words text.toList := by
  unfold ofText?
  split_ifs with h
  · exact h.symm
  · rfl

theorem ofText?_eq_iff :
    ofText? text = ofText? other ↔ Chars.words text.toList = Chars.words other.toList := by
  constructor
  · intro h
    rw [← elim_ofText?, h, elim_ofText?]
  · intro h
    ext e
    rw [ofText?_eq_some_iff, ofText?_eq_some_iff, h]

theorem words_line (e : Entry) : Chars.words e.line = e.words :=
  Chars.words_unwords e.isWord_of_mem

theorem ofText?_text (e : Entry) : ofText? e.text = some e := by
  rw [ofText?_eq_some_iff, toList_text, words_line]

theorem text_injective : Function.Injective Entry.text := by
  intro e f h
  rw [← Option.some_inj, ← ofText?_text e, h, ofText?_text]

theorem eq_text_iff (h : ofText? text = some e) {line : String} :
    line = e.text ↔ IsSingleSpaced line.toList ∧ SameWords line.toList text.toList := by
  have hwords : SameWords line.toList text.toList ↔ HasWords line.toList e.words := by
    rw [Chars.sameWords_iff, Chars.hasWords_iff, ofText?_eq_some_iff.1 h]
  rw [hwords, Chars.isSingleSpaced_and_hasWords_iff e.isWord_of_mem, ← String.toList_inj,
    toList_text]
  rfl

theorem lines_terminated (e : Entry) {terminator : String} (h : terminator ∈ ["\n", "\r\n"]) :
    Chars.lines (e.line ++ terminator.toList) = [e.line] := by
  rcases List.mem_pair.1 h with rfl | rfl
  · exact e.lines_line
  · exact Chars.lines_return e.newline_not_mem_line

theorem isFinished_terminated (e : Entry) {terminator : String}
    (h : terminator ∈ ["\n", "\r\n"]) : IsFinished (e.line ++ terminator.toList) := by
  rcases List.mem_pair.1 h with rfl | rfl
  · exact Chars.isFinished_append_newline e.line
  · exact .inr (by simp)

theorem lines_written (e : Entry) {before terminator : String} (hbefore : IsFinished before.toList)
    (h : terminator ∈ ["\n", "\r\n"]) (after : String) :
    Text.lines (before ++ e.text ++ terminator ++ after) =
      Text.lines before ++ e.text :: Text.lines after := by
  have hlines : Chars.lines (before ++ e.text ++ terminator ++ after).toList =
      Chars.lines before.toList ++ ([e.line] ++ Chars.lines after.toList) := by
    rw [String.append_assoc, String.append_assoc, String.toList_append, Chars.lines_append hbefore,
      ← String.append_assoc, String.toList_append, String.toList_append, toList_text,
      Chars.lines_append (e.isFinished_terminated h), e.lines_terminated h]
  rw [Text.lines, hlines, List.map_append, List.map_append]
  rfl

/-- Of all entries only the one that was added is found at the end. -/
theorem endsWith_addition_iff (content : String) :
    Changelog.endsWith (Changelog.lastLine? (content ++ Changelog.addition content e)) f = true ↔
      f = e := by
  rw [Changelog.lastLine?_append_addition, Changelog.endsWith, Option.any_some, trim_text,
    decide_eq_true_eq, text_injective.eq_iff, eq_comm]

/-- A text has one list of words, and no entry if all of it is blank. Its entry is the only text
with these words that is spaced by single spaces: it holds no line break, trimming it or making an
entry of it again changes nothing, and other texts have the same entry exactly if they have the same
words. Written on a line of its own it is read as that line, and at the end of a document it is told
from every other entry. -/
theorem ofText?_canonical (text : String) :
    (∃! ws, HasWords text.toList ws) ∧
    (ofText? text = none ↔ ∀ c ∈ text.toList, Chars.isBlank c = true) ∧
    (∀ other : String, (ofText? text).map Entry.text = (ofText? other).map Entry.text ↔
      SameWords text.toList other.toList) ∧
    ∀ e, ofText? text = some e →
      (∀ line : String, line = e.text ↔
        IsSingleSpaced line.toList ∧ SameWords line.toList text.toList) ∧
      (∀ c ∈ e.text.toList, Chars.isLineBreak c = false) ∧
      Text.trim e.text = e.text ∧ ofText? e.text = some e ∧
      (∀ before after : String, IsFinished before.toList → ∀ terminator ∈ ["\n", "\r\n"],
        Text.lines (before ++ e.text ++ terminator ++ after) =
          Text.lines before ++ e.text :: Text.lines after) ∧
      ∀ content f, Changelog.endsWith
        (Changelog.lastLine? (content ++ Changelog.addition content e)) f = true ↔ f = e := by
  refine ⟨⟨_, Chars.hasWords_iff.2 rfl, fun ws h => h.words_eq.symm⟩, ?_, fun other => ?_,
    fun e h => ?_⟩
  · rw [ofText?_eq_none_iff, Text.isBlank, Chars.allBlank, List.all_eq_true]
  · rw [(Option.map_injective text_injective).eq_iff, ofText?_eq_iff, Chars.sameWords_iff]
  · have hspaced : IsSingleSpaced e.text.toList := ((eq_text_iff h).1 rfl).1
    exact ⟨fun line => eq_text_iff h, fun c hc => hspaced.isLineBreak hc, e.trim_text,
      e.ofText?_text, fun before after hbefore terminator hterminator =>
        e.lines_written hbefore hterminator after, fun content f => endsWith_addition_iff content⟩

/-- Line and paragraph separators, a next line and a no-break space are blanks like any other. -/
theorem ofText?_canonical_separators :
    let text := "\u2029Sprint:\u00a03\r\n\u0085\tBug \u2028 Fixes: x "
    ∃ e, ofText? text = some e ∧ e.text = "Sprint: 3 Bug Fixes: x" ∧
      SameWords text.toList e.text.toList ∧
      IsFinished "# Notes\n".toList ∧ "\r\n" ∈ ["\n", "\r\n"] ∧
      Text.lines ("# Notes\n" ++ e.text ++ "\r\n" ++ "- old") =
        ["# Notes", e.text, "- old"] := by
  intro text
  have htext : (ofText? text).map Entry.text = some "Sprint: 3 Bug Fixes: x" := by decide +kernel
  obtain ⟨e, he, hline⟩ := Option.map_eq_some_iff.1 htext
  obtain ⟨-, -, hsame, h⟩ := ofText?_canonical text
  obtain ⟨-, -, -, hagain, hlines, -⟩ := h e he
  have hfinished : IsFinished "# Notes\n".toList := .inr (by decide)
  have hterminator : "\r\n" ∈ ["\n", "\r\n"] := by decide
  refine ⟨e, he, hline, (hsame e.text).1 (by rw [he, hagain]), hfinished, hterminator, ?_⟩
  rw [hlines _ _ hfinished _ hterminator]
  rfl

end Entry
end MergeNotes
