import Mathlib.Data.List.Forall2
import MergeNotes.Json.Writer
import MergeNotes.Proofs.JsonObject

namespace MergeNotes.Json

/-- A text without control characters, and so without line ends. -/
def IsShown (cs : List Char) : Prop := ∀ c ∈ cs, 0x20 ≤ c.toNat

instance (cs : List Char) : Decidable (IsShown cs) :=
  List.decidableBAll (fun c : Char => 0x20 ≤ c.toNat) cs

theorem IsShown.append {cs ds : List Char} (h : IsShown cs) (h' : IsShown ds) :
    IsShown (cs ++ ds) :=
  fun c hc => (List.mem_append.1 hc).elim (h c) (h' c)

theorem IsShown.cons {c : Char} {cs : List Char} (hc : 0x20 ≤ c.toNat) (h : IsShown cs) :
    IsShown (c :: cs) :=
  List.forall_mem_cons.2 ⟨hc, h⟩

theorem isShown_nil : IsShown [] := nofun

theorem isHexDigit_digitChar {n : Nat} (h : n < 16) : IsHexDigit n.digitChar n := by
  interval_cases n <;> exact .inl (by decide)

theorem unicodeEscape_eq {p : Nat} (h : p < 0x20) :
    unicodeEscape p = ['\\', 'u', '0', '0', (p / 16).digitChar, (p % 16).digitChar] := by
  interval_cases p <;> decide

theorem isPoint_unicodeEscape {p : Nat} (h : p < 0x20) : IsPoint p (unicodeEscape p) := by
  have hzero : IsHexDigit '0' 0 := isHexDigit_digitChar (by decide)
  have hpoint := IsPoint.digits hzero hzero (isHexDigit_digitChar (n := p / 16) (by omega))
    (isHexDigit_digitChar (n := p % 16) (by omega))
  have hvalue : ((0 * 16 + 0) * 16 + p / 16) * 16 + p % 16 = p := by omega
  rwa [hvalue, ← unicodeEscape_eq h] at hpoint

theorem isPoint_writePoint (c : Char) : IsPoint c.toNat (writePoint c.toNat) := by
  have hofNat : Char.ofNat c.toNat = c := c.ofNat_toNat
  obtain ⟨hhigh, hlow⟩ := isSurrogate_toNat c
  generalize hp : c.toNat = p at *
  fun_cases writePoint p with
  | case8 _ _ _ _ _ _ _ _ hcontrol =>
    exact isPoint_unicodeEscape (by simpa [hhigh, hlow] using hcontrol)
  | case9 _ hquote hslash _ _ _ _ _ hcontrol =>
    subst hp
    rw [hofNat]
    refine .plain ?_ ?_ ?_
    · simpa [hhigh, hlow] using hcontrol
    · rintro rfl
      exact hquote rfl
    · rintro rfl
      exact hslash rfl
  | _ => exact .letter (by decide)

theorem arePoints_flatMap_writePoint (cs : List Char) :
    ArePoints (cs.map Char.toNat) ((cs.map Char.toNat).flatMap writePoint) := by
  induction cs with
  | nil => exact .nil
  | cons c cs ih => exact .cons (isPoint_writePoint c) ih

theorem spells_map_toNat (cs : List Char) : Spells (cs.map Char.toNat) cs := by
  induction cs with
  | nil => exact .nil
  | cons c cs ih => exact .char c ih

def natFrom (n : Nat) (ds : List Char) : Nat :=
  ds.foldl (fun n d => n * 10 + (d.toNat - '0'.toNat)) n

theorem le_natFrom (n : Nat) (ds : List Char) : n ≤ natFrom n ds := by
  induction ds generalizing n with
  | nil => exact Nat.le_refl n
  | cons d ds ih => exact (show n ≤ n * 10 + _ by omega).trans (ih _)

theorem gather_eq {n : Nat} {ds : List Char} (h : natFrom n ds < UInt64.size) :
    gather n ds = (natFrom n ds, []) := by
  induction ds generalizing n with
  | nil => rfl
  | cons d ds ih =>
    have hd : n * 10 + Decimal.natOf [d] = n * 10 + (d.toNat - '0'.toNat) := by
      simp [Decimal.natOf]
    have hnext := (le_natFrom (n * 10 + (d.toNat - '0'.toNat)) ds).trans_lt h
    rw [gather, hd, if_pos hnext]
    exact ih h

theorem natFrom_toDigits (n : Nat) : natFrom 0 (Nat.toDigits 10 n) = n := by
  have hdigits := Nat.ofDigitChars_toDigits (b := 10) (n := n) (by decide) (by decide)
  simpa only [natFrom, Nat.ofDigitChars, Nat.mul_comm] using hdigits

theorem areDigits_toDigits (n : Nat) : AreDigits (Nat.toDigits 10 n) :=
  ⟨Nat.toDigits_ne_nil, fun _ hc => Nat.isDigit_of_mem_toDigits (by decide) (by decide) hc⟩

theorem toDigits_ten {n : Nat} (h : 10 ≤ n) :
    Nat.toDigits 10 n = Nat.toDigits 10 (n / 10) ++ Nat.toDigits 10 (n % 10) := by
  rw [Nat.toDigits_append_toDigits (by decide) (by omega) (by omega), Nat.div_add_mod]

theorem head?_toDigits_ne {n : Nat} (h : 0 < n) : (Nat.toDigits 10 n).head? ≠ some '0' := by
  induction n using Nat.strongRecOn with
  | ind n ih =>
    by_cases hn : n < 10
    · rw [Nat.toDigits_of_lt_base hn]
      interval_cases n <;> decide
    · have hhead := ih (n / 10) (by omega) (by omega)
      rw [toDigits_ten (by omega)]
      cases hds : Nat.toDigits 10 (n / 10) with
      | nil => exact absurd hds Nat.toDigits_ne_nil
      | cons d ds => rwa [hds] at hhead

theorem isWholePart_toDigits (n : Nat) : IsWholePart (Nat.toDigits 10 n) := by
  refine ⟨areDigits_toDigits n, fun h => ?_⟩
  obtain rfl | hn := n.eq_zero_or_pos
  · rfl
  · exact absurd h (head?_toDigits_ne hn)

theorem write_ofNat (n : Nat) : (ofNat n).write = Nat.toDigits 10 n := by
  simp [ofNat, write, writeNumber]

theorem isText_ofNat {n : Nat} (h : n < UInt64.size) : IsText (ofNat n) (ofNat n).write := by
  have hvalue : ofDigits false (Nat.toDigits 10 n) [] none = (⟨false, n, 0⟩, true) := by
    rw [ofDigits, gather_eq (by rwa [natFrom_toDigits]), natFrom_toDigits]
    rfl
  have hnumber : IsUnsigned false _ _ := .mk (isWholePart_toDigits n) .none .none
  rw [hvalue, List.append_nil, List.append_nil] at hnumber
  rw [write_ofNat]
  exact .number (.plain hnumber)

theorem isText_ofString (s : String) : IsText (ofString s) (ofString s).write :=
  .string (arePoints_flatMap_writePoint s.toList)

theorem isText_bool (b : Bool) : IsText (.bool b) (Json.bool b).write := by
  cases b <;> exact .bool _

theorem areMembers_writeMembers {ms : List (String × Json)} (hne : ms ≠ [])
    (hv : ∀ m ∈ ms, IsText m.2 m.2.write) :
    AreMembers (ms.map fun (k, v) => (points k, v))
      (writeMembers (ms.map fun (k, v) => (points k, v)) ++ ['}']) := by
  induction ms with
  | nil => exact absurd rfl hne
  | cons m ms ih =>
    have hkey := arePoints_flatMap_writePoint m.1.toList
    have hvalue := hv m List.mem_cons_self
    cases ms with
    | nil =>
      have hmember := AreMembers.last hkey isGap_nil isGap_nil hvalue isGap_nil
      simpa [writeMembers, writeString, points] using hmember
    | cons m' ms =>
      have hrest := ih (by simp) fun x hx => hv x (List.mem_cons_of_mem _ hx)
      have hmember := AreMembers.cons hkey isGap_nil isGap_nil hvalue isGap_nil isGap_nil hrest
      simpa [writeMembers, writeString, points] using hmember

theorem isText_ofMembers {ms : List (String × Json)} (hne : ms ≠ [])
    (hv : ∀ m ∈ ms, IsText m.2 m.2.write) : IsText (ofMembers ms) (ofMembers ms).write := by
  have hobject := IsText.object isGap_nil (areMembers_writeMembers hne hv)
  simpa [ofMembers, write] using hobject

theorem isObject_ofMembers (ms : List (String × Json)) : IsObject ms (ofMembers ms) := by
  refine .mk (List.forall₂_map_left_iff.2 (List.forall₂_same.2 ?_))
  exact fun m _ => ⟨spells_map_toNat m.1.toList, rfl⟩

theorem IsHexDigit.isShown {c : Char} {n : Nat} (h : IsHexDigit c n) : 0x20 ≤ c.toNat := by
  have hn := h.lt
  interval_cases n <;> rcases h with h | h <;> cases h <;> decide

theorem IsPoint.isShown {p : Nat} {cs : List Char} (h : IsPoint p cs) : IsShown cs := by
  cases h with
  | plain hc _ _ => exact isShown_nil.cons hc
  | @letter e p h =>
    have he : ∀ x ∈ letters, 0x20 ≤ x.1.toNat := by decide
    exact (isShown_nil.cons (he _ h)).cons (by decide)
  | digits ha hb hc hd =>
    have hlast := (isShown_nil.cons hd.isShown).cons hc.isShown
    have hdigits := (hlast.cons hb.isShown).cons ha.isShown
    exact (hdigits.cons (by decide)).cons (by decide)

theorem ArePoints.isShown {ps : List Nat} {cs : List Char} (h : ArePoints ps cs) : IsShown cs := by
  induction h with
  | nil => exact isShown_nil
  | cons hp _ ih => exact hp.isShown.append ih

theorem isShown_writeString (cs : List Char) : IsShown (writeString (cs.map Char.toNat)) :=
  ((arePoints_flatMap_writePoint cs).isShown.cons (by decide)).append (isShown_nil.cons (by decide))

theorem isShown_ofNat (n : Nat) : IsShown (ofNat n).write := by
  rw [write_ofNat]
  intro c hc
  have hdigit := Char.isDigit_iff_toNat.1 ((areDigits_toDigits n).2 c hc)
  exact (show 0x20 ≤ '0'.toNat by decide).trans hdigit.1

theorem isShown_writeMembers {ms : List (String × Json)} (hv : ∀ m ∈ ms, IsShown m.2.write) :
    IsShown (writeMembers (ms.map fun (k, v) => (points k, v))) := by
  induction ms with
  | nil => exact isShown_nil
  | cons m ms ih =>
    have hrest := ih fun x hx => hv x (List.mem_cons_of_mem _ hx)
    have hmember : IsShown (writeString (points m.1) ++ ':' :: m.2.write) :=
      (isShown_writeString _).append ((hv m List.mem_cons_self).cons (by decide))
    cases ms with
    | nil => exact hmember
    | cons m' ms =>
      exact hmember.append (hrest.cons (by decide))

theorem isShown_ofMembers {ms : List (String × Json)} (hv : ∀ m ∈ ms, IsShown m.2.write) :
    IsShown (ofMembers ms).write :=
  ((isShown_writeMembers hv).append (isShown_nil.cons (by decide))).cons (by decide)

end MergeNotes.Json
