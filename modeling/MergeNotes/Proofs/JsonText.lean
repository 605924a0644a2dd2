import Mathlib.Data.List.TakeWhile
import Mathlib.Tactic.IntervalCases
import MergeNotes.Json.Reader

namespace MergeNotes.Json

def IsGap (cs : List Char) : Prop := ∀ c ∈ cs, c ∈ [' ', '\t', '\n', '\r']

instance (cs : List Char) : Decidable (IsGap cs) :=
  List.decidableBAll (· ∈ [' ', '\t', '\n', '\r']) cs

def IsHexDigit (c : Char) (n : Nat) : Prop :=
  "0123456789abcdef".toList[n]? = some c ∨ "0123456789ABCDEF".toList[n]? = some c

def letters : List (Char × Nat) :=
  [('"', 0x22), ('\\', 0x5C), ('/', 0x2F), ('b', 0x08), ('f', 0x0C), ('n', 0x0A), ('r', 0x0D),
    ('t', 0x09)]

/-- The ways to write one code point in a string. -/
inductive IsPoint : Nat → List Char → Prop
  | plain {c : Char} (hc : 0x20 ≤ c.toNat) (hquote : c ≠ '"') (hslash : c ≠ '\\') :
      IsPoint c.toNat [c]
  | letter {p e} (h : (e, p) ∈ letters) : IsPoint p ['\\', e]
  | digits {a b c d i j k l} (ha : IsHexDigit a i) (hb : IsHexDigit b j) (hc : IsHexDigit c k)
      (hd : IsHexDigit d l) : IsPoint (((i * 16 + j) * 16 + k) * 16 + l) ['\\', 'u', a, b, c, d]

inductive ArePoints : List Nat → List Char → Prop
  | nil : ArePoints [] []
  | cons {p ps cs ds} (hp : IsPoint p cs) (hps : ArePoints ps ds) : ArePoints (p :: ps) (cs ++ ds)

def AreDigits (cs : List Char) : Prop := cs ≠ [] ∧ ∀ c ∈ cs, c.isDigit = true

def IsWholePart (cs : List Char) : Prop := AreDigits cs ∧ (cs.head? = some '0' → cs.length = 1)

inductive IsFraction : List Char → List Char → Prop
  | none : IsFraction [] []
  | some {ds} (h : AreDigits ds) : IsFraction ds ('.' :: ds)

inductive IsExponent : Int → List Char → Prop
  | unsigned {ds} (h : AreDigits ds) : IsExponent (Decimal.natOf ds) ds
  | plus {ds} (h : AreDigits ds) : IsExponent (Decimal.natOf ds) ('+' :: ds)
  | minus {ds} (h : AreDigits ds) : IsExponent (-Decimal.natOf ds) ('-' :: ds)

inductive IsScale : Option Int → List Char → Prop
  | none : IsScale none []
  | some {e n cs} (he : e ∈ ['e', 'E']) (h : IsExponent n cs) : IsScale (some n) (e :: cs)

/-- The number of those digits, of which only so many count as fit in 64 bits. -/
def ofDigits (negative : Bool) (whole fraction : List Char) (scale : Option Int) : Decimal × Bool :=
  let (m, zeros) := gather 0 whole
  let (n, left) := gather m fraction
  (⟨negative, n, scale.getD 0 + zeros.length - (fraction.length - left.length)⟩,
    fraction.isEmpty && scale.isNone)

inductive IsUnsigned (negative : Bool) : Decimal × Bool → List Char → Prop
  | mk {whole fraction fs scale ss} (hwhole : IsWholePart whole)
      (hfraction : IsFraction fraction fs) (hscale : IsScale scale ss) :
      IsUnsigned negative (ofDigits negative whole fraction scale) (whole ++ fs ++ ss)

inductive IsNumber : Decimal × Bool → List Char → Prop
  | plain {d cs} (h : IsUnsigned false d cs) : IsNumber d cs
  | negated {d cs} (h : IsUnsigned true d cs) : IsNumber d ('-' :: cs)

mutual

/-- The texts of a value, without space around them. -/
inductive IsText : Json → List Char → Prop
  | null : IsText null ['n', 'u', 'l', 'l']
  | bool (b : Bool) :
      IsText (bool b) (if b then ['t', 'r', 'u', 'e'] else ['f', 'a', 'l', 's', 'e'])
  | number {value plain cs} (h : IsNumber (value, plain) cs) : IsText (number value plain) cs
  | string {ps cs} (h : ArePoints ps cs) : IsText (string ps) ('"' :: cs ++ ['"'])
  | emptyArray {gap} (hgap : IsGap gap) : IsText (array [] true) ('[' :: gap ++ [']'])
  | array {gap vs cs} (hgap : IsGap gap) (h : AreItems vs cs) :
      IsText (array vs true) ('[' :: gap ++ cs)
  | emptyObject {gap} (hgap : IsGap gap) : IsText (object [] true) ('{' :: gap ++ ['}'])
  | object {gap ms cs} (hgap : IsGap gap) (h : AreMembers ms cs) :
      IsText (object ms true) ('{' :: gap ++ cs)

inductive AreItems : List Json → List Char → Prop
  | last {v cs after} (h : IsText v cs) (hafter : IsGap after) :
      AreItems [v] (cs ++ (after ++ [']']))
  | cons {v vs cs after next ds} (h : IsText v cs) (hafter : IsGap after) (hnext : IsGap next)
      (hvs : AreItems vs ds) : AreItems (v :: vs) (cs ++ (after ++ ',' :: (next ++ ds)))

inductive AreMembers : List (List Nat × Json) → List Char → Prop
  | last {k ks g v g' cs after} (hk : ArePoints k ks) (hg : IsGap g) (hg' : IsGap g')
      (h : IsText v cs) (hafter : IsGap after) :
      AreMembers [(k, v)] ('"' :: (ks ++ '"' :: (g ++ ':' :: (g' ++ cs ++ (after ++ ['}'])))))
  | cons {k ks g v g' cs after next ms ds} (hk : ArePoints k ks) (hg : IsGap g) (hg' : IsGap g')
      (h : IsText v cs) (hafter : IsGap after) (hnext : IsGap next) (hms : AreMembers ms ds) :
      AreMembers ((k, v) :: ms)
        ('"' :: (ks ++ '"' :: (g ++ ':' :: (g' ++ cs ++ (after ++ ',' :: (next ++ ds))))))

end

def IsDocument (v : Json) (text : List Char) : Prop :=
  ∃ before cs after, IsGap before ∧ IsText v cs ∧ IsGap after ∧ text = before ++ (cs ++ after)

/-! A value with a text is whole -/

mutual

theorem IsText.isWhole {v : Json} {cs : List Char} : IsText v cs → v.isWhole = true
  | .null | .bool _ | .number _ | .string _ | .emptyArray _ | .emptyObject _ => rfl
  | .array _ h => by rw [Json.isWhole, h.areWhole]; rfl
  | .object _ h => by rw [Json.isWhole, h.areWhole]; rfl

theorem AreItems.areWhole {vs : List Json} {cs : List Char} :
    AreItems vs cs → Json.areWhole vs = true
  | .last h _ => by rw [Json.areWhole, h.isWhole]; rfl
  | .cons h _ _ hvs => by rw [Json.areWhole, h.isWhole, hvs.areWhole]; rfl

theorem AreMembers.areWhole {ms : List (List Nat × Json)} {cs : List Char} :
    AreMembers ms cs → Json.membersAreWhole ms = true
  | .last _ _ _ h _ => by rw [Json.membersAreWhole, h.isWhole]; rfl
  | .cons _ _ _ h _ _ hms => by rw [Json.membersAreWhole, h.isWhole, hms.areWhole]; rfl

end

/-! Names and values of members have texts of their own -/

theorem AreMembers.member {ms : List (List Nat × Json)} {cs : List Char} {m : List Nat × Json} :
    AreMembers ms cs → m ∈ ms → (∃ ks, ArePoints m.1 ks) ∧ ∃ ds, IsText m.2 ds
  | .last hk _ _ h _, hm => by
    rw [List.mem_singleton] at hm
    subst hm
    exact ⟨⟨_, hk⟩, ⟨_, h⟩⟩
  | .cons hk _ _ h _ _ hms, hm => by
    rcases List.mem_cons.1 hm with rfl | hm
    · exact ⟨⟨_, hk⟩, ⟨_, h⟩⟩
    · exact hms.member hm

theorem IsText.member {ms : List (List Nat × Json)} {cs : List Char} {m : List Nat × Json}
    (h : IsText (.object ms true) cs) (hm : m ∈ ms) :
    (∃ ks, ArePoints m.1 ks) ∧ ∃ ds, IsText m.2 ds := by
  cases h with
  | emptyObject _ => cases hm
  | object _ h => exact h.member hm

/-! Space -/

theorem IsGap.isSpace {gap : List Char} (h : IsGap gap) : ∀ c ∈ gap, isSpace c = true := by
  intro c hc
  have hmem := h c hc
  simp only [List.mem_cons, List.not_mem_nil, or_false] at hmem
  rcases hmem with rfl | rfl | rfl | rfl <;> rfl

theorem skipSpace_append {gap : List Char} (h : IsGap gap) (cs : List Char) :
    skipSpace (gap ++ cs) = skipSpace cs :=
  List.dropWhile_append_of_pos h.isSpace

theorem skipSpace_cons {c : Char} (h : isSpace c = false) (cs : List Char) :
    skipSpace (c :: cs) = c :: cs := by
  simp [skipSpace, h]

/-! Strings -/

theorem IsHexDigit.lt {c : Char} {n : Nat} (h : IsHexDigit c n) : n < 16 := by
  rcases h with h | h <;> exact (List.getElem?_eq_some_iff.1 h).1

theorem hexValue?_of_isHexDigit {c : Char} {n : Nat} (h : IsHexDigit c n) :
    Decimal.hexValue? c = some n := by
  have hn := h.lt
  interval_cases n <;> rcases h with h | h <;> cases h <;> decide

theorem escape?_of_mem {e : Char} {p : Nat} (h : (e, p) ∈ letters) : escape? e = some p := by
  revert h
  simp only [letters, List.mem_cons, Prod.mk.injEq, List.not_mem_nil, or_false]
  rintro (⟨rfl, rfl⟩ | ⟨rfl, rfl⟩ | ⟨rfl, rfl⟩ | ⟨rfl, rfl⟩ | ⟨rfl, rfl⟩ | ⟨rfl, rfl⟩ | ⟨rfl, rfl⟩ |
    ⟨rfl, rfl⟩) <;> rfl

theorem ne_u_of_mem {e : Char} {p : Nat} (h : (e, p) ∈ letters) : e ≠ 'u' := by
  rintro rfl
  simp [letters] at h

theorem readString?_append {ps : List Nat} {cs : List Char} (h : ArePoints ps cs)
    (rest : List Char) : readString? (cs ++ '"' :: rest) = some (ps, rest) := by
  induction h with
  | nil => rfl
  | @cons p ps cs ds hp hps ih =>
    rw [List.append_assoc]
    cases hp with
    | @plain c hc hquote hslash =>
      have hlow : ¬c.toNat < 0x20 := Nat.not_lt.2 hc
      simp [readString?, hslash, hlow, ih]
    | letter h =>
      have hu := ne_u_of_mem h
      simp [readString?, hu, escape?_of_mem h, ih]
    | digits ha hb hc hd =>
      simp [readString?, Decimal.ofHex?, hexValue?_of_isHexDigit ha, hexValue?_of_isHexDigit hb,
        hexValue?_of_isHexDigit hc, hexValue?_of_isHexDigit hd, ih]

/-! Numbers -/

/-- What may follow a number: nothing that would go on with it. -/
def Stops (rest : List Char) : Prop :=
  ∀ c ∈ rest.head?, c.isDigit = false ∧ c ≠ '.' ∧ c ≠ 'e' ∧ c ≠ 'E'

theorem readDigits?_append {ds rest : List Char} (h : AreDigits ds)
    (hrest : ∀ c ∈ rest.head?, c.isDigit = false) : readDigits? (ds ++ rest) = some (ds, rest) := by
  have hhead : rest.takeWhile Char.isDigit = [] ∧ rest.dropWhile Char.isDigit = rest := by
    cases rest with
    | nil => exact ⟨rfl, rfl⟩
    | cons c cs => simp [hrest c rfl]
  have htake : (ds ++ rest).takeWhile Char.isDigit = ds := by
    rw [List.takeWhile_append_of_pos h.2, hhead.1, List.append_nil]
  have hdrop : (ds ++ rest).dropWhile Char.isDigit = rest := by
    rw [List.dropWhile_append_of_pos h.2, hhead.2]
  have hne : ds.isEmpty = false := by simpa using h.1
  simp [readDigits?, htake, hdrop, hne]

theorem readWhole?_append {ds rest : List Char} (h : IsWholePart ds)
    (hrest : ∀ c ∈ rest.head?, c.isDigit = false) : readWhole? (ds ++ rest) = some (ds, rest) := by
  rw [readWhole?, readDigits?_append h.1 hrest]
  have hzero : ¬(ds.head? = some '0' ∧ ¬ds.length = 1) := fun hz => hz.2 (h.2 hz.1)
  simp [hzero]

theorem readFraction?_append {ds fs rest : List Char} (h : IsFraction ds fs)
    (hrest : ∀ c ∈ rest.head?, c.isDigit = false ∧ c ≠ '.') :
    readFraction? (fs ++ rest) = some (ds, rest) := by
  cases h with
  | none =>
    cases rest with
    | nil => rfl
    | cons c cs =>
      have hc := (hrest c rfl).2
      simp [readFraction?, hc]
  | some h => exact readDigits?_append h fun c hc => (hrest c hc).1

theorem readExponent?_append {n : Int} {cs rest : List Char} (h : IsExponent n cs)
    (hrest : ∀ c ∈ rest.head?, c.isDigit = false) :
    readExponent? (cs ++ rest) = some (n, rest) := by
  cases h with
  | unsigned h =>
    have hread := readDigits?_append h hrest
    obtain ⟨d, ds, rfl⟩ := List.exists_cons_of_ne_nil h.1
    have hd := h.2 d List.mem_cons_self
    have hminus : d ≠ '-' := by rintro rfl; cases hd
    have hplus : d ≠ '+' := by rintro rfl; cases hd
    rw [List.cons_append] at hread ⊢
    simp [readExponent?, hminus, hplus, hread]
  | plus h => simp [readExponent?, readDigits?_append h hrest]
  | minus h => simp [readExponent?, readDigits?_append h hrest]

theorem readScale?_append {scale : Option Int} {ss rest : List Char} (h : IsScale scale ss)
    (hrest : Stops rest) : readScale? (ss ++ rest) = some (scale, rest) := by
  cases h with
  | none =>
    cases rest with
    | nil => rfl
    | cons c cs =>
      obtain ⟨-, -, he, hE⟩ := hrest c rfl
      simp [readScale?, he, hE]
  | some he h =>
    have hread := readExponent?_append h fun c hc => (hrest c hc).1
    simp only [List.mem_cons, List.not_mem_nil, or_false] at he
    rcases he with rfl | rfl <;> simp [readScale?, hread]

theorem head?_scale {scale : Option Int} {ss rest : List Char} (h : IsScale scale ss)
    (hrest : Stops rest) : ∀ c ∈ (ss ++ rest).head?, c.isDigit = false ∧ c ≠ '.' := by
  cases h with
  | none => exact fun c hc => ⟨(hrest c hc).1, (hrest c hc).2.1⟩
  | some he h =>
    rintro c ⟨⟩
    simp only [List.mem_cons, List.not_mem_nil, or_false] at he
    rcases he with rfl | rfl <;> decide

theorem readUnsigned?_append {negative : Bool} {d : Decimal × Bool} {cs rest : List Char}
    (h : IsUnsigned negative d cs) (hrest : Stops rest) :
    readUnsigned? negative (cs ++ rest) = some (d, rest) := by
  obtain @⟨whole, fraction, fs, scale, ss, hwhole, hfraction, hscale⟩ := h
  have hafter := head?_scale hscale hrest
  have hdigit : ∀ c ∈ (fs ++ (ss ++ rest)).head?, c.isDigit = false := by
    cases hfraction with
    | none => exact fun c hc => (hafter c hc).1
    | some _ =>
      rintro c ⟨⟩
      rfl
  rw [List.append_assoc, List.append_assoc, readUnsigned?, readWhole?_append hwhole hdigit]
  simp only [Option.bind_eq_bind, Option.bind_some, readFraction?_append hfraction hafter,
    readScale?_append hscale hrest]
  rfl

theorem AreDigits.exists_cons {ds : List Char} (h : AreDigits ds) :
    ∃ c cs, ds = c :: cs ∧ c.isDigit = true := by
  obtain ⟨c, cs, rfl⟩ := List.exists_cons_of_ne_nil h.1
  exact ⟨c, cs, rfl, h.2 c List.mem_cons_self⟩

/-- What the text of a value that is no number starts with, and the end of an array. -/
def openers : List Char := ['n', 't', 'f', '"', '[', '{', ']']

theorem not_opener_of_isDigit {c : Char} (h : c.isDigit = true) :
    isSpace c = false ∧ c ∉ openers := by
  constructor
  · by_contra hspace
    simp only [isSpace, Bool.or_eq_true, beq_iff_eq, Bool.not_eq_false] at hspace
    rcases hspace with ((rfl | rfl) | rfl) | rfl <;> cases h
  · intro hmem
    simp only [openers, List.mem_cons, List.not_mem_nil, or_false] at hmem
    rcases hmem with rfl | rfl | rfl | rfl | rfl | rfl | rfl <;> cases h

theorem IsNumber.exists_cons {d : Decimal × Bool} {cs : List Char} (h : IsNumber d cs) :
    ∃ c ds, cs = c :: ds ∧ isSpace c = false ∧ c ∉ openers := by
  cases h with
  | plain h =>
    obtain ⟨hwhole, -, -⟩ := h
    obtain ⟨c, cs, rfl, hc⟩ := hwhole.1.exists_cons
    exact ⟨c, _, rfl, not_opener_of_isDigit hc⟩
  | negated h => exact ⟨'-', _, rfl, by decide, by decide⟩

theorem readNumber?_append {d : Decimal × Bool} {cs rest : List Char} (h : IsNumber d cs)
    (hrest : Stops rest) : readNumber? (cs ++ rest) = some (d, rest) := by
  cases h with
  | plain h =>
    have hread := readUnsigned?_append h hrest
    obtain ⟨hwhole, -, -⟩ := h
    obtain ⟨c, cs, rfl, hc⟩ := hwhole.1.exists_cons
    have hminus : c ≠ '-' := by rintro rfl; cases hc
    rw [List.cons_append, List.cons_append, List.cons_append] at hread ⊢
    simpa [readNumber?, hminus] using hread
  | negated h => exact readUnsigned?_append h hrest

/-! Values -/

theorem skipSpace_of_gap {gap cs : List Char} {c : Char} (hgap : IsGap gap)
    (hc : isSpace c = false) : skipSpace (gap ++ c :: cs) = c :: cs := by
  rw [skipSpace_append hgap, skipSpace_cons hc]

theorem Stops.of_gap {gap rest : List Char} (hgap : IsGap gap) (hrest : Stops rest) :
    Stops (gap ++ rest) := by
  cases gap with
  | nil => exact hrest
  | cons c gap =>
    rintro d ⟨⟩
    have hmem := hgap c List.mem_cons_self
    simp only [List.mem_cons, List.not_mem_nil, or_false] at hmem
    rcases hmem with rfl | rfl | rfl | rfl <;> decide

theorem stops_cons {c : Char} (hc : c.isDigit = false ∧ c ≠ '.' ∧ c ≠ 'e' ∧ c ≠ 'E')
    (rest : List Char) : Stops (c :: rest) := by
  rintro d ⟨⟩
  exact hc

theorem IsText.exists_cons {v : Json} {cs : List Char} (h : IsText v cs) :
    ∃ c ds, cs = c :: ds ∧ isSpace c = false ∧ c ≠ ']' := by
  cases h with
  | bool b => cases b <;> exact ⟨_, _, rfl, by decide, by decide⟩
  | number h =>
    obtain ⟨c, ds, rfl, hspace, hopener⟩ := h.exists_cons
    refine ⟨c, ds, rfl, hspace, ?_⟩
    rintro rfl
    exact hopener (by decide)
  | _ => exact ⟨_, _, rfl, by decide, by decide⟩

theorem AreItems.exists_cons {vs : List Json} {cs : List Char} (h : AreItems vs cs) :
    ∃ c ds, cs = c :: ds ∧ isSpace c = false ∧ c ≠ ']' := by
  cases h with
  | last h _ | cons h _ _ _ =>
    obtain ⟨c, ds, rfl, hc⟩ := h.exists_cons
    exact ⟨c, _, rfl, hc⟩

theorem AreMembers.exists_cons {ms : List (List Nat × Json)} {cs : List Char}
    (h : AreMembers ms cs) : ∃ ds, cs = '"' :: ds := by
  cases h <;> exact ⟨_, rfl⟩

theorem readValue_number {d : Decimal × Bool} {cs gap rest : List Char} {fuel : Nat}
    (h : IsNumber d cs) (hgap : IsGap gap) (hrest : Stops rest) :
    readValue (fuel + 1) (gap ++ (cs ++ rest)) = (number d.1 d.2, some rest) := by
  have hread := readNumber?_append h hrest
  obtain ⟨c, ds, rfl, hspace, hopener⟩ := h.exists_cons
  rw [List.cons_append] at hread ⊢
  rw [readValue, skipSpace_of_gap hgap hspace]
  split
  case h_7 => rw [hread]
  -- no other value starts like a number
  all_goals
    rename_i heq
    rw [(List.cons.inj heq).1] at hopener
    exact absurd (by decide) hopener

theorem readValue_string {ps : List Nat} {cs gap rest : List Char} {fuel : Nat}
    (h : ArePoints ps cs) (hgap : IsGap gap) :
    readValue (fuel + 1) (gap ++ ('"' :: cs ++ ['"'] ++ rest)) = (string ps, some rest) := by
  simp only [List.cons_append, List.append_assoc, List.nil_append]
  rw [readValue, skipSpace_of_gap hgap (by decide)]
  simp only [readString?_append h]

theorem readValue_bool {b : Bool} {gap rest : List Char} {fuel : Nat} (hgap : IsGap gap) :
    readValue (fuel + 1)
        (gap ++ ((if b then ['t', 'r', 'u', 'e'] else ['f', 'a', 'l', 's', 'e']) ++ rest)) =
      (bool b, some rest) := by
  rw [readValue]
  cases b
  · rw [if_neg (by decide), List.cons_append, skipSpace_of_gap hgap (by decide)]
    rfl
  · rw [if_pos rfl, List.cons_append, skipSpace_of_gap hgap (by decide)]
    rfl

theorem readValue_array {vs : List Json} {cs gap gap' rest : List Char} {fuel : Nat}
    (hgap : IsGap gap) (hgap' : IsGap gap') (h : AreItems vs cs)
    (hread : readItems fuel (cs ++ rest) = (vs, some rest)) :
    readValue (fuel + 1) (gap ++ ('[' :: gap' ++ cs ++ rest)) = (array vs true, some rest) := by
  obtain ⟨c, ds, rfl, hspace, hclose⟩ := h.exists_cons
  simp only [List.cons_append, List.append_assoc] at hread ⊢
  rw [readValue, skipSpace_of_gap hgap (by decide)]
  simp only [skipSpace_of_gap hgap' hspace]
  split
  · rename_i heq
    cases heq
    exact absurd rfl hclose
  · rw [hread]
    rfl

theorem readValue_emptyArray {gap gap' rest : List Char} {fuel : Nat} (hgap : IsGap gap)
    (hgap' : IsGap gap') :
    readValue (fuel + 1) (gap ++ ('[' :: gap' ++ [']'] ++ rest)) = (array [] true, some rest) := by
  simp only [List.cons_append, List.append_assoc, List.nil_append]
  rw [readValue, skipSpace_of_gap hgap (by decide)]
  simp only [skipSpace_of_gap hgap' (show isSpace ']' = false by decide)]

theorem readItems_last {v : Json} {cs after gap rest : List Char} {fuel : Nat}
    (hafter : IsGap after)
    (hread : readValue fuel (gap ++ (cs ++ (after ++ ']' :: rest))) =
      (v, some (after ++ ']' :: rest))) :
    readItems (fuel + 1) (gap ++ (cs ++ (after ++ [']']) ++ rest)) = ([v], some rest) := by
  simp only [List.append_assoc, List.cons_append, List.nil_append]
  rw [readItems, hread]
  simp only [skipSpace_of_gap hafter (show isSpace ']' = false by decide)]

theorem readItems_cons {v : Json} {vs : List Json} {cs after ds gap rest : List Char} {fuel : Nat}
    (hafter : IsGap after)
    (hread : readValue fuel (gap ++ (cs ++ (after ++ ',' :: (ds ++ rest)))) =
      (v, some (after ++ ',' :: (ds ++ rest))))
    (hrest : readItems fuel (ds ++ rest) = (vs, some rest)) :
    readItems (fuel + 1) (gap ++ (cs ++ (after ++ ',' :: ds) ++ rest)) =
      (v :: vs, some rest) := by
  simp only [List.append_assoc, List.cons_append]
  rw [readItems, hread]
  simp only [skipSpace_of_gap hafter (show isSpace ',' = false by decide), hrest]

theorem readValue_object {ms : List (List Nat × Json)} {cs gap gap' rest : List Char} {fuel : Nat}
    (hgap : IsGap gap) (hgap' : IsGap gap') (h : AreMembers ms cs)
    (hread : readMembers fuel (cs ++ rest) = (ms, some rest)) :
    readValue (fuel + 1) (gap ++ ('{' :: gap' ++ cs ++ rest)) =
      (object ms true, some rest) := by
  obtain ⟨ds, rfl⟩ := h.exists_cons
  simp only [List.cons_append, List.append_assoc] at hread ⊢
  rw [readValue, skipSpace_of_gap hgap (by decide)]
  simp only [skipSpace_of_gap hgap' (show isSpace '"' = false by decide)]
  split
  · rename_i heq
    cases heq
  · rw [hread]
    rfl

theorem readValue_emptyObject {gap gap' rest : List Char} {fuel : Nat} (hgap : IsGap gap)
    (hgap' : IsGap gap') :
    readValue (fuel + 1) (gap ++ ('{' :: gap' ++ ['}'] ++ rest)) =
      (object [] true, some rest) := by
  simp only [List.cons_append, List.append_assoc, List.nil_append]
  rw [readValue, skipSpace_of_gap hgap (by decide)]
  simp only [skipSpace_of_gap hgap' (show isSpace '}' = false by decide)]

theorem readMembers_last {k : List Nat} {v : Json} {ks g cs after gap rest : List Char} {fuel : Nat}
    (hk : ArePoints k ks) (hgap : IsGap gap) (hg : IsGap g) (hafter : IsGap after)
    (hread : readValue fuel (cs ++ (after ++ '}' :: rest)) =
      (v, some (after ++ '}' :: rest))) :
    readMembers (fuel + 1)
        (gap ++ ('"' :: (ks ++ '"' :: (g ++ ':' :: (cs ++ (after ++ ['}'])))) ++ rest)) =
      ([(k, v)], some rest) := by
  simp only [List.append_assoc, List.cons_append, List.nil_append]
  rw [readMembers, skipSpace_of_gap hgap (by decide)]
  simp only [readString?_append hk, skipSpace_of_gap hg (show isSpace ':' = false by decide), hread,
    skipSpace_of_gap hafter (show isSpace '}' = false by decide)]

theorem readMembers_cons {k : List Nat} {v : Json} {ms : List (List Nat × Json)}
    {ks g cs after ds gap rest : List Char} {fuel : Nat}
    (hk : ArePoints k ks) (hgap : IsGap gap) (hg : IsGap g) (hafter : IsGap after)
    (hread : readValue fuel (cs ++ (after ++ ',' :: (ds ++ rest))) =
      (v, some (after ++ ',' :: (ds ++ rest))))
    (hrest : readMembers fuel (ds ++ rest) = (ms, some rest)) :
    readMembers (fuel + 1)
        (gap ++ ('"' :: (ks ++ '"' :: (g ++ ':' :: (cs ++ (after ++ ',' :: ds)))) ++ rest)) =
      ((k, v) :: ms, some rest) := by
  simp only [List.append_assoc, List.cons_append]
  rw [readMembers, skipSpace_of_gap hgap (by decide)]
  simp only [readString?_append hk, skipSpace_of_gap hg (show isSpace ':' = false by decide), hread,
    skipSpace_of_gap hafter (show isSpace ',' = false by decide), hrest]

/-! Every text is read as its value -/

theorem isGap_nil : IsGap [] := nofun

theorem IsText.length_pos {v : Json} {cs : List Char} (h : IsText v cs) : 0 < cs.length := by
  obtain ⟨c, ds, rfl, -⟩ := h.exists_cons
  exact Nat.zero_lt_succ _

mutual

/-- Each nesting and each item takes one step of fuel and at least one character. -/
theorem IsText.read {v : Json} {cs gap rest : List Char} {fuel : Nat} (h : IsText v cs)
    (hfuel : 2 * cs.length ≤ fuel) (hgap : IsGap gap) (hrest : Stops rest) :
    readValue fuel (gap ++ (cs ++ rest)) = (v, some rest) := by
  have hpos := h.length_pos
  obtain ⟨fuel, rfl⟩ : ∃ n, fuel = n + 1 := ⟨fuel - 1, by omega⟩
  match h with
  | .null =>
    rw [readValue, List.cons_append, skipSpace_of_gap hgap (by decide)]
    rfl
  | .bool b => exact readValue_bool hgap
  | .number h => exact readValue_number h hgap hrest
  | .string h => exact readValue_string h hgap
  | .emptyArray hgap' => exact readValue_emptyArray hgap hgap'
  | .array hgap' h =>
    simp only [List.length_cons, List.length_append] at hfuel
    exact readValue_array hgap hgap' h (h.read (by omega) isGap_nil)
  | .emptyObject hgap' => exact readValue_emptyObject hgap hgap'
  | .object hgap' h =>
    simp only [List.length_cons, List.length_append] at hfuel
    exact readValue_object hgap hgap' h (h.read (by omega) isGap_nil)

theorem AreItems.read {vs : List Json} {cs gap rest : List Char} {fuel : Nat} (h : AreItems vs cs)
    (hfuel : 2 * cs.length ≤ fuel) (hgap : IsGap gap) :
    readItems fuel (gap ++ (cs ++ rest)) = (vs, some rest) := by
  match h with
  | .last h hafter =>
    simp only [List.length_cons, List.length_append] at hfuel
    obtain ⟨fuel, rfl⟩ : ∃ n, fuel = n + 1 := ⟨fuel - 1, by omega⟩
    have hstops : Stops (_ ++ ']' :: rest) := (stops_cons (by decide) rest).of_gap hafter
    exact readItems_last hafter (h.read (by omega) hgap hstops)
  | .cons h hafter hnext hvs =>
    simp only [List.length_cons, List.length_append] at hfuel
    obtain ⟨fuel, rfl⟩ : ∃ n, fuel = n + 1 := ⟨fuel - 1, by omega⟩
    exact readItems_cons hafter
      (h.read (by omega) hgap ((stops_cons (by decide) _).of_gap hafter))
      (by
        rw [List.append_assoc]
        exact hvs.read (by omega) hnext)

theorem AreMembers.read {ms : List (List Nat × Json)} {cs gap rest : List Char} {fuel : Nat}
    (h : AreMembers ms cs) (hfuel : 2 * cs.length ≤ fuel) (hgap : IsGap gap) :
    readMembers fuel (gap ++ (cs ++ rest)) = (ms, some rest) := by
  match h with
  | .last hk hg hg' h hafter =>
    simp only [List.length_cons, List.length_append] at hfuel
    obtain ⟨fuel, rfl⟩ : ∃ n, fuel = n + 1 := ⟨fuel - 1, by omega⟩
    have hstops : Stops (_ ++ '}' :: rest) := (stops_cons (by decide) rest).of_gap hafter
    exact readMembers_last hk hgap hg hafter (by
      rw [List.append_assoc]
      exact h.read (by omega) hg' hstops)
  | .cons hk hg hg' h hafter hnext hms =>
    simp only [List.length_cons, List.length_append] at hfuel
    obtain ⟨fuel, rfl⟩ : ∃ n, fuel = n + 1 := ⟨fuel - 1, by omega⟩
    exact readMembers_cons hk hgap hg hafter
      (by
        rw [List.append_assoc]
        exact h.read (by omega) hg' ((stops_cons (by decide) _).of_gap hafter))
      (by
        rw [List.append_assoc]
        exact hms.read (by omega) hnext)

end

theorem ofText_of_isDocument {v : Json} {text : List Char} (h : IsDocument v text) :
    ofText text = (v, true) := by
  obtain ⟨before, cs, after, hbefore, htext, hafter, rfl⟩ := h
  have hstops : Stops after := by
    have hend : Stops [] := nofun
    simpa using hend.of_gap hafter
  rw [ofText, htext.read (by simp only [List.length_append]; omega) hbefore hstops]
  have hspace := skipSpace_append hafter []
  rw [List.append_nil] at hspace
  simp only [hspace]
  rfl

end MergeNotes.Json
