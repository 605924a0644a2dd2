import Mathlib.Data.List.Forall2
import MergeNotes.Proofs.Comment
import MergeNotes.Proofs.Extraction

namespace MergeNotes

namespace Chars

/-- Every line feed with a carriage return before it. -/
def crlf : List Char → List Char
  | [] => []
  | c :: cs => if c = '\n' then '\r' :: '\n' :: crlf cs else c :: crlf cs

variable {cs l l' pat : List Char}

theorem crlf_append (as bs : List Char) : crlf (as ++ bs) = crlf as ++ crlf bs := by
  induction as with
  | nil => rfl
  | cons a as ih =>
    rw [List.cons_append, crlf, crlf, ih]
    split_ifs <;> rfl

theorem crlf_of_notMem (h : '\n' ∉ cs) : crlf cs = cs := by
  induction cs with
  | nil => rfl
  | cons c cs ih =>
    rw [List.mem_cons, not_or] at h
    rw [crlf, if_neg (Ne.symm h.1), ih h.2]

theorem crlf_ne_newline_cons (cs ds : List Char) : crlf cs ≠ '\n' :: ds := by
  cases cs with
  | nil => nofun
  | cons c cs =>
    rw [crlf]
    split_ifs with hc
    · simp
    · simp [hc]

def IsInLine (pat : List Char) : Prop := '\n' ∉ pat ∧ '\r' ∉ pat

theorem isPrefixOf_cons_of_isInLine (hne : pat ≠ []) (hpat : IsInLine pat) {c : Char}
    (hc : c = '\n' ∨ c = '\r') (cs : List Char) : pat.isPrefixOf (c :: cs) = false := by
  obtain ⟨p, ps, rfl⟩ := List.exists_cons_of_ne_nil hne
  have hp : (p == c) = false := by
    rw [beq_eq_false_iff_ne]
    rintro rfl
    rcases hc with rfl | rfl
    · exact hpat.1 List.mem_cons_self
    · exact hpat.2 List.mem_cons_self
  rw [List.isPrefixOf_cons_cons, hp, Bool.false_and]

theorem isPrefixOf_crlf (hpat : IsInLine pat) (cs : List Char) :
    pat.isPrefixOf (crlf cs) = pat.isPrefixOf cs := by
  induction pat generalizing cs with
  | nil => rfl
  | cons p pat ih =>
    cases cs with
    | nil => rfl
    | cons c cs =>
      rw [crlf]
      split_ifs with hc
      · have hne := List.cons_ne_nil p pat
        rw [isPrefixOf_cons_of_isInLine hne hpat (.inr rfl),
          isPrefixOf_cons_of_isInLine hne hpat (.inl hc)]
      · have htail : IsInLine pat :=
          ⟨fun h => hpat.1 (List.mem_cons_of_mem p h), fun h => hpat.2 (List.mem_cons_of_mem p h)⟩
        rw [List.isPrefixOf_cons_cons, List.isPrefixOf_cons_cons, ih htail]

theorem cutAt?_crlf (hne : pat ≠ []) (hpat : IsInLine pat) (cs : List Char) :
    cutAt? pat (crlf cs) =
      (cutAt? pat cs).map fun (before, after) => (crlf before, crlf after) := by
  induction cs with
  | nil => simp [crlf, cutAt?, hne]
  | cons c cs ih =>
    by_cases hc : c = '\n'
    · have hreturn := isPrefixOf_cons_of_isInLine hne hpat (.inr rfl) ('\n' :: crlf cs)
      have hfeed (ds : List Char) := isPrefixOf_cons_of_isInLine hne hpat (.inl rfl) ds
      subst hc
      rw [crlf, if_pos rfl, cutAt?, hreturn, cutAt?, hfeed, ih, cutAt?, hfeed]
      cases cutAt? pat cs <;> simp [crlf]
    · have hstart := isPrefixOf_crlf hpat (c :: cs)
      rw [crlf, if_neg hc] at hstart ⊢
      rw [cutAt?, cutAt?, hstart]
      split_ifs with hfound
      · -- the pattern itself has no line feed to put a carriage return before
        obtain ⟨rest, hrest⟩ := List.isPrefixOf_iff_prefix.1 hfound
        have hcrlf : c :: crlf cs = pat ++ crlf rest := calc
          c :: crlf cs = crlf (c :: cs) := by rw [crlf, if_neg hc]
          _ = crlf pat ++ crlf rest := by rw [← hrest, crlf_append]
          _ = pat ++ crlf rest := by rw [crlf_of_notMem hpat.1]
        rw [hcrlf, ← hrest, List.drop_left, List.drop_left]
        rfl
      · rw [ih]
        cases cutAt? pat cs <;> simp [crlf, hc]

/-- One line, the second time perhaps with a carriage return at its end. -/
def IsReturned (l l' : List Char) : Prop := l' = l ∨ l' = l ++ ['\r']

theorem IsReturned.trim_eq (h : IsReturned l l') : trim l' = trim l := by
  rcases h with rfl | rfl
  · rfl
  · exact trim_concat (by decide) l

theorem IsReturned.cons (h : IsReturned l l') (c : Char) : IsReturned (c :: l) (c :: l') := by
  rcases h with rfl | rfl
  · exact .inl rfl
  · exact .inr rfl

/-- The lines that end at line feeds only. -/
theorem pieces_crlf (cs : List Char) :
    List.Forall₂ IsReturned (pieces (· == '\n') cs) (pieces (· == '\n') (crlf cs)) := by
  induction cs with
  | nil => exact .cons (.inl rfl) .nil
  | cons c cs ih =>
    rw [crlf]
    split_ifs with hc
    · have hreturn : pieces (· == '\n') ('\r' :: '\n' :: crlf cs) =
          ['\r'] :: pieces (· == '\n') (crlf cs) := by simp [pieces]
      rw [hc, hreturn, pieces, if_pos (beq_self_eq_true _)]
      exact .cons (.inr rfl) ih
    · have hne : pieces (· == '\n') cs ≠ [] := pieces_ne_nil cs
      obtain ⟨w, ws, hw⟩ := List.exists_cons_of_ne_nil hne
      rw [hw] at ih
      obtain ⟨w', ws', hfirst, hrest, hw'⟩ := List.forall₂_cons_left_iff.1 ih
      simp only [pieces, hw, hw', beq_iff_eq, hc, if_false]
      exact .cons (hfirst.cons c) hrest

theorem lines_crlf (cs : List Char) : List.Forall₂ IsReturned (lines cs) (lines (crlf cs)) := by
  fun_induction lines cs with
  | case1 => exact .nil
  | case2 cs ih =>
    have hlines : lines (crlf ('\n' :: cs)) = [] :: lines (crlf cs) := by simp [crlf, lines]
    rw [hlines]
    exact .cons (.inl rfl) ih
  | case3 cs ih =>
    have hlines : lines (crlf ('\r' :: '\n' :: cs)) = ['\r'] :: lines (crlf cs) := by
      simp [crlf, lines]
    rw [hlines]
    exact .cons (.inr rfl) ih
  | case4 c cs hn hr hls ih =>
    have hc : c ≠ '\n' := hn
    have hlines : lines (crlf [c]) = [[c]] := by simp [crlf, lines, hc]
    -- the last line has no terminator, and gets none
    rw [lines_eq_nil.1 hls, hlines]
    exact .cons (.inl rfl) .nil
  | case5 c cs hn hr l ls hls ih =>
    rw [hls] at ih
    obtain ⟨l', ls', hfirst, hrest, hls'⟩ := List.forall₂_cons_left_iff.1 ih
    have hlines : lines (crlf (c :: cs)) = (c :: l') :: ls' := by
      rw [crlf, if_neg hn, lines, hls']
      · exact hn
      · intro ds _ hds
        exact crlf_ne_newline_cons cs ds hds
    rw [hlines]
    exact .cons (hfirst.cons c) hrest

end Chars

namespace Extraction

open Chars (crlf IsReturned)

variable {l l' : List Char}

theorem Comment.cutAt?_opener_crlf (cs : List Char) :
    Chars.cutAt? opener (crlf cs) =
      (Chars.cutAt? opener cs).map fun (before, body) => (crlf before, crlf body) :=
  Chars.cutAt?_crlf (by decide) ⟨by decide, by decide⟩ cs

/-- The dashes of the opener, which may be part of the closer, are no line feeds. -/
theorem Comment.cutAt?_closer_crlf (body : List Char) :
    Chars.cutAt? closer ('-' :: '-' :: crlf body) =
      (Chars.cutAt? closer ('-' :: '-' :: body)).map
        fun (inside, after) => (crlf inside, crlf after) :=
  Chars.cutAt?_crlf (by decide) ⟨by decide, by decide⟩ ('-' :: '-' :: body)

theorem Comment.strip_crlf (cs : List Char) :
    Comment.strip (crlf cs) = crlf (Comment.strip cs) := by
  fun_induction Comment.strip cs with
  | case1 cs h =>
    have hnone := cutAt?_opener_crlf cs
    rw [h, Option.map_none] at hnone
    exact strip_of_none hnone
  | case2 cs before body h h' =>
    have hopen := cutAt?_opener_crlf cs
    have hnone := cutAt?_closer_crlf body
    rw [h, Option.map_some] at hopen
    rw [h', Option.map_none] at hnone
    exact strip_of_open hopen hnone
  | case3 cs before body h inside after h' ih =>
    have hopen := cutAt?_opener_crlf cs
    have hclose := cutAt?_closer_crlf body
    rw [h, Option.map_some] at hopen
    rw [h', Option.map_some] at hclose
    rw [strip_of_closed hopen hclose, ih, Chars.crlf_append]

theorem Summary.cleanLine_of_isReturned (h : IsReturned l l') : cleanLine l' = cleanLine l := by
  rw [cleanLine, cleanLine, h.trim_eq]

theorem Summary.extract?_crlf (description : List Char) :
    Summary.extract? (crlf description) = Summary.extract? description := by
  have hlines := Chars.lines_crlf (Comment.strip description)
  rw [Summary.extract?, Summary.extract?, Comment.strip_crlf]
  generalize Chars.lines (Comment.strip description) = ls,
    Chars.lines (crlf (Comment.strip description)) = ls' at hlines
  induction hlines with
  | nil => rfl
  | cons hfirst hrest ih =>
    rw [List.map_cons, List.map_cons, List.find?_cons, List.find?_cons, ih,
      cleanLine_of_isReturned hfirst]

/-- A carriage return at the end of a line is part of the value, where it is trimmed. -/
theorem Fields.step_of_isReturned (fields : List (List Char)) (r : Reading)
    (h : IsReturned l l') : r.step fields l' = r.step fields l := by
  have htrim := h.trim_eq
  rcases h with rfl | rfl
  · rfl
  unfold Reading.step
  cases hcut : Chars.cutAt? [':'] l with
  | none =>
    have hnone : Chars.cutAt? [':'] (l ++ ['\r']) = none := by
      rw [Chars.cutAt?_eq_none_iff] at hcut ⊢
      simp [hcut]
    simp only [hnone, htrim]
  | some cut =>
    obtain ⟨name, value⟩ := cut
    have hline : l ++ ['\r'] = name ++ ':' :: (value ++ ['\r']) := by
      rw [← Chars.append_of_cutAt? hcut]
      simp
    have hvalue : Chars.trim (value ++ ['\r']) = Chars.trim value :=
      Chars.trim_concat (by decide) value
    rw [hline, Chars.cutAt?_of_notMem (Chars.notMem_of_cutAt? hcut)]
    simp only [hvalue]

theorem Fields.read_crlf (fields : List (List Char)) (description : List Char) :
    read fields (crlf description) = read fields description := by
  have hlines := Chars.pieces_crlf description
  rw [read, read]
  generalize Reading.start fields = r
  generalize Chars.pieces (· == '\n') description = ls,
    Chars.pieces (· == '\n') (crlf description) = ls' at hlines
  induction hlines generalizing r with
  | nil => rfl
  | cons hfirst hrest ih =>
    rw [List.foldl_cons, List.foldl_cons, step_of_isReturned fields r hfirst, ih]

theorem Fields.extract?_crlf (fields : List (List Char)) (description : List Char) :
    Fields.extract? fields (crlf description) = Fields.extract? fields description := by
  rw [Fields.extract?, Fields.extract?, read_crlf]

end Extraction

namespace Text

def crlf (s : String) : String := String.ofList (Chars.crlf s.toList)

theorem toList_crlf (s : String) : (crlf s).toList = Chars.crlf s.toList :=
  String.toList_ofList

end Text

namespace Extraction

theorem isBarred_crlf {marker : String} (hmarker : Chars.IsInLine marker.toList)
    (description : String) :
    isBarred marker (Text.crlf description) = isBarred marker description := by
  rw [isBarred, isBarred]
  cases hblank : Text.isBlank marker with
  | true => rfl
  | false =>
    have hne : marker.toList ≠ [] := by
      intro h
      rw [Text.isBlank, h] at hblank
      cases hblank
    rw [Text.occursIn, Text.occursIn, Text.toList_crlf, Chars.occursIn, Chars.occursIn,
      Chars.cutAt?_crlf hne hmarker, Option.isSome_map]

theorem byRule_crlf (rule : Rule) (fields : List String) (description : String) :
    byRule rule fields (Text.crlf description) = byRule rule fields description := by
  cases rule with
  | summary => rw [byRule, byRule, Text.toList_crlf, Summary.extract?_crlf]
  | fields => rw [byRule, byRule, Text.toList_crlf, Fields.extract?_crlf]

end Extraction

/-- The same is taken from a description whether its lines end in a line feed or in a carriage
return and a line feed, whatever carriage returns it has besides. -/
theorem Config.extract_crlf (c : Config) (rule : Option Rule) (description : String)
    (hreturn : '\r' ∉ c.extraction.skipMarker.toList)
    (hfeed : '\n' ∉ c.extraction.skipMarker.toList) :
    c.extract rule (Text.crlf description) = c.extract rule description := by
  rw [extract_eq, extract_eq, Extraction.isBarred_crlf ⟨hfeed, hreturn⟩, Extraction.byRule_crlf]

/-- A comment that goes over two lines, a value that goes on on the next line, and carriage returns
that were there before. -/
theorem Config.extract_crlf_continued :
    let c : Config := { extraction := { fields := ["Sprint"] } }
    let description := "<!-- a\n\r b\r\n-->\nSprint: 4\r\r\n of 5\nx: y\r"
    c.extract (some .fields) (Text.crlf description) = some "Sprint: 4; of 5" ∧
      c.extract none (Text.crlf description) = some "Sprint: 4" := by
  intro c description
  have hreturn : '\r' ∉ c.extraction.skipMarker.toList := by decide +kernel
  have hfeed : '\n' ∉ c.extraction.skipMarker.toList := by decide +kernel
  rw [extract_crlf c (some .fields) description hreturn hfeed,
    extract_crlf c none description hreturn hfeed]
  decide +kernel

end MergeNotes
