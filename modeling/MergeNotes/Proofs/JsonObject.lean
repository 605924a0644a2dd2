import MergeNotes.Proofs.JsonText

namespace MergeNotes.Json

def highSurrogate (c : Char) : Nat := 0xD800 + (c.toNat - 0x10000) / 0x400

def lowSurrogate (c : Char) : Nat := 0xDC00 + (c.toNat - 0x10000) % 0x400

/-- The ways to put characters into code points: one each, or two surrogates where there
are. -/
inductive Spells : List Nat → List Char → Prop
  | nil : Spells [] []
  | char (c : Char) {ps cs} (h : Spells ps cs) : Spells (c.toNat :: ps) (c :: cs)
  | pair (c : Char) {ps cs} (hc : 0x10000 ≤ c.toNat) (h : Spells ps cs) :
      Spells (highSurrogate c :: lowSurrogate c :: ps) (c :: cs)

theorem isSurrogate_toNat (c : Char) :
    isHighSurrogate c.toNat = false ∧ isLowSurrogate c.toNat = false := by
  have hvalid : c.toNat < 0xD800 ∨ 0xDFFF < c.toNat ∧ c.toNat < 0x110000 := c.valid
  simp only [isHighSurrogate, isLowSurrogate, Bool.and_eq_false_iff, decide_eq_false_iff_not]
  omega

theorem chars?_of_spells {ps : List Nat} {cs : List Char} (h : Spells ps cs) :
    chars? ps = some cs := by
  induction h with
  | nil => rfl
  | @char c ps cs h ih =>
    obtain ⟨hhigh, hlow⟩ := isSurrogate_toNat c
    cases ps with
    | nil =>
      obtain rfl : [] = cs := by simpa [chars?] using ih
      simp [chars?, hhigh, hlow]
    | cons p ps => simp [chars?, hhigh, hlow, ih]
  | @pair c ps cs hc h ih =>
    have hvalid : c.toNat < 0xD800 ∨ 0xDFFF < c.toNat ∧ c.toNat < 0x110000 := c.valid
    have hhigh : isHighSurrogate (highSurrogate c) = true := by
      rw [isHighSurrogate, highSurrogate, Bool.and_eq_true, decide_eq_true_iff, decide_eq_true_iff]
      omega
    have hlow : isLowSurrogate (lowSurrogate c) = true := by
      rw [isLowSurrogate, lowSurrogate, Bool.and_eq_true, decide_eq_true_iff, decide_eq_true_iff]
      omega
    -- the two surrogates of a character add up to it again
    have hsum : 0x10000 + (highSurrogate c - 0xD800) * 0x400 + (lowSurrogate c - 0xDC00) =
        c.toNat := by
      simp only [highSurrogate, lowSurrogate]
      omega
    rw [chars?, hhigh, hlow, ih, hsum, Char.ofNat_toNat]
    rfl

theorem text?_of_spells {ps : List Nat} {s : String} (h : Spells ps s.toList) :
    text? ps = some s := by
  rw [text?, chars?_of_spells h, Option.map_some, String.ofList_toList]

theorem IsPoint.lt {p : Nat} {cs : List Char} (h : IsPoint p cs) : p < 0x110000 := by
  cases h with
  | @plain c _ _ _ =>
    have hvalid : c.toNat < 0xD800 ∨ 0xDFFF < c.toNat ∧ c.toNat < 0x110000 := c.valid
    omega
  | @letter p e h =>
    have hletters : ∀ x ∈ letters, x.2 < 0x110000 := by decide
    exact hletters _ h
  | digits ha hb hc hd =>
    have := ha.lt
    have := hb.lt
    have := hc.lt
    have := hd.lt
    omega

theorem ArePoints.lt {ps : List Nat} {cs : List Char} (h : ArePoints ps cs) :
    ∀ p ∈ ps, p < 0x110000 := by
  induction h with
  | nil => exact nofun
  | cons hp _ ih => exact List.forall_mem_cons.2 ⟨hp.lt, ih⟩

theorem toNat_ofNat {p : Nat} (h : p < 0xD800 ∨ 0xDFFF < p ∧ p < 0x110000) :
    (Char.ofNat p).toNat = p := by
  have hvalid : p.isValidChar := h
  rw [Char.ofNat, dif_pos hvalid]
  rfl

/-- A point that is no surrogate is a character by itself. -/
theorem Spells.cons {p : Nat} {ps : List Nat} {cs : List Char} (h : Spells ps cs)
    (hp : p < 0x110000) (hlone : ¬(isHighSurrogate p || isLowSurrogate p) = true) :
    Spells (p :: ps) (Char.ofNat p :: cs) := by
  simp only [isHighSurrogate, isLowSurrogate, Bool.or_eq_true, Bool.and_eq_true,
    decide_eq_true_eq] at hlone
  have hcode : (Char.ofNat p).toNat = p := toNat_ofNat (by omega)
  have hspells := Spells.char (Char.ofNat p) h
  rwa [hcode] at hspells

theorem spells_of_chars? {ps : List Nat} {cs : List Char} (hps : ∀ p ∈ ps, p < 0x110000)
    (h : chars? ps = some cs) : Spells ps cs := by
  fun_induction chars? ps generalizing cs with
  | case1 =>
    cases h
    exact .nil
  | case2 p l ps hpair ih =>
    obtain ⟨ds, hds, rfl⟩ := Option.map_eq_some_iff.1 h
    simp only [isHighSurrogate, isLowSurrogate, Bool.and_eq_true, decide_eq_true_eq] at hpair
    have hrest := ih (fun q hq => hps q (by simp [hq])) hds
    -- two surrogates are those of the character that they make
    generalize hc : Char.ofNat (0x10000 + (p - 0xD800) * 0x400 + (l - 0xDC00)) = c
    have hcode : c.toNat = 0x10000 + (p - 0xD800) * 0x400 + (l - 0xDC00) := by
      rw [← hc]
      exact toNat_ofNat (by omega)
    have hp : p = highSurrogate c := by
      rw [highSurrogate]
      omega
    have hl : l = lowSurrogate c := by
      rw [lowSurrogate]
      omega
    rw [hp, hl]
    exact .pair c (by omega) hrest
  | case3 p l ps hpair hlone => cases h
  | case4 p l ps _ hlone ih =>
    obtain ⟨ds, hds, rfl⟩ := Option.map_eq_some_iff.1 h
    have hrest := ih (fun q hq => hps q (List.mem_cons_of_mem p hq)) hds
    exact hrest.cons (hps p List.mem_cons_self) hlone
  | case5 p hlone => cases h
  | case6 p hlone =>
    cases h
    exact Spells.nil.cons (hps p List.mem_cons_self) hlone

theorem spells_of_text? {ps : List Nat} {cs : List Char} {s : String} (hps : ArePoints ps cs)
    (h : text? ps = some s) : Spells ps s.toList := by
  obtain ⟨ds, hds, rfl⟩ := Option.map_eq_some_iff.1 h
  rw [String.toList_ofList]
  exact spells_of_chars? hps.lt hds

inductive IsString (s : String) : Json → Prop
  | mk {ps} (h : Spells ps s.toList) : IsString s (string ps)

/-- An object by the names of its members, in their order. -/
inductive IsObject (named : List (String × Json)) : Json → Prop
  | mk {ms} (h : List.Forall₂ (fun m n => Spells m.1 n.1.toList ∧ m.2 = n.2) ms named) :
      IsObject named (object ms true)

end MergeNotes.Json
