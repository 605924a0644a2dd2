import Mathlib.Data.List.Nodup
import Mathlib.Logic.Relator

namespace MergeNotes

theorem bind_eq_ok {ε α β : Type} {x : Except ε α} {f : α → Except ε β} {b : β} :
    (x >>= f) = .ok b ↔ ∃ a, x = .ok a ∧ f a = .ok b := by
  cases x <;> simp [bind, Except.bind]

theorem map_eq_ok {ε α β : Type} {x : Except ε α} {f : α → β} {b : β} :
    x.map f = .ok b ↔ ∃ a, x = .ok a ∧ f a = b := by
  cases x <;> simp [Except.map]

theorem toOption_eq_some_iff {ε α : Type} {x : Except ε α} {a : α} :
    x.toOption = some a ↔ x = .ok a := by
  cases x <;> simp [Except.toOption]

inductive Takes {α ν : Type} (Is : α → ν → Prop) (missing : α) : Option ν → α → Prop
  | missing : Takes Is missing none missing
  | given {v a} (h : Is a v) : Takes Is missing (some v) a

variable {ε σ α ν : Type} {named : List (String × ν)} {name : String} {v : ν}

section

variable {Is Is' : α → ν → Prop} {missing a b : α} {found : Option ν}

theorem takes_none_iff : Takes Is missing none a ↔ a = missing :=
  ⟨fun h => by cases h; rfl, fun h => h ▸ .missing⟩

theorem takes_some_iff : Takes Is missing (some v) a ↔ Is a v :=
  ⟨fun h => by cases h; assumption, .given⟩

theorem Takes.unique (hIs : Relator.LeftUnique Is) (h : Takes Is missing found a)
    (h' : Takes Is missing found b) : a = b := by
  cases h with
  | missing => cases h'; rfl
  | given h =>
    cases h' with
    | given h' => exact hIs h h'

theorem Takes.mono (hIs : ∀ v a, Is a v → Is' a v) (h : Takes Is missing found a) :
    Takes Is' missing found a := by
  cases h with
  | missing => exact .missing
  | given h => exact .given (hIs _ _ h)

end

theorem notMem_of_count_le (hone : (((name, v) :: named).map Prod.fst).count name ≤ 1) :
    name ∉ named.map Prod.fst := by
  rw [List.map_cons, List.count_cons_self] at hone
  exact List.count_eq_zero.1 (by omega)

theorem lookup_of_mem (hone : (named.map Prod.fst).count name ≤ 1) (h : (name, v) ∈ named) :
    named.lookup name = some v := by
  induction named with
  | nil => cases h
  | cons n named ih =>
    obtain ⟨k, w⟩ := n
    by_cases hk : name = k
    · subst hk
      rcases List.mem_cons.1 h with heq | hmem
      · cases heq
        exact List.lookup_cons_self
      · exact absurd (List.mem_map_of_mem hmem) (notMem_of_count_le hone)
    · have hmem : (name, v) ∈ named := by
        rcases List.mem_cons.1 h with heq | hmem
        · cases heq
          exact absurd rfl hk
        · exact hmem
      rw [List.lookup_cons, beq_false_of_ne hk]
      refine ih ?_ hmem
      rwa [List.map_cons, List.count_cons_of_ne (Ne.symm hk)] at hone

section

variable {κ κ' β γ : Type} [BEq κ] [LawfulBEq κ] [BEq κ'] [LawfulBEq κ'] {k : κ} {k' : κ'} {b : β}
  {xs : List (κ × β)}

theorem lookup_eq_none_iff : xs.lookup k = none ↔ k ∉ xs.map Prod.fst := by
  rw [List.lookup_eq_none_iff]
  simp only [List.mem_map, not_exists, not_and]
  exact ⟨fun h x hx hk => by simpa [hk] using h x hx, fun h x hx => by
    simpa using fun hk => h x hx hk.symm⟩

theorem isSome_lookup_iff : (xs.lookup k).isSome ↔ k ∈ xs.map Prod.fst := by
  rw [Option.isSome_iff_ne_none, ne_eq, lookup_eq_none_iff, not_not]

theorem lookup_eq_some_iff (hone : (xs.map Prod.fst).Nodup) :
    xs.lookup k = some b ↔ (k, b) ∈ xs := by
  induction xs with
  | nil => simp
  | cons x xs ih =>
    obtain ⟨j, c⟩ := x
    rw [List.map_cons, List.nodup_cons] at hone
    by_cases hj : k = j
    · subst hj
      rw [List.lookup_cons_self, List.mem_cons]
      refine ⟨fun h => .inl (by rw [Option.some.inj h]), ?_⟩
      rintro (h | h)
      · rw [(Prod.mk.inj h).2]
      · exact absurd (List.mem_map_of_mem h) hone.1
    · rw [List.lookup_cons, beq_false_of_ne hj, List.mem_cons, ← ih hone.2]
      simp [hj]

/-- What is taken out under other names does not matter. -/
theorem lookup_filter {p : κ → Bool} (xs : List (κ × β)) (h : p k = true) :
    (xs.filter (p ·.1)).lookup k = xs.lookup k := by
  induction xs with
  | nil => rfl
  | cons x xs ih =>
    obtain ⟨j, c⟩ := x
    by_cases hj : p j = true
    · rw [List.filter_cons, if_pos hj, List.lookup_cons, List.lookup_cons, ih]
    · -- dropped on the left, passed over on the right
      have hk : k ≠ j := fun hk => hj (hk ▸ h)
      rw [List.filter_cons, if_neg hj, List.lookup_cons, beq_false_of_ne hk, ih]

theorem lookup_filterMap {f : κ × β → Option (κ' × γ)} (hone : (xs.map Prod.fst).Nodup)
    (hf : ∀ x y, f x = some y → (k' = y.1 ↔ k = x.1)) :
    (xs.filterMap f).lookup k' = (xs.lookup k).bind fun b => (f (k, b)).map Prod.snd := by
  induction xs with
  | nil => rfl
  | cons x xs ih =>
    obtain ⟨j, c⟩ := x
    rw [List.map_cons, List.nodup_cons] at hone
    rw [List.filterMap_cons, List.lookup_cons]
    cases hx : f (j, c) with
    | none =>
      -- dropped on the left, so it must give nothing on the right either
      rw [ih hone.2]
      by_cases hj : k = j
      · subst hj
        simp [hx, lookup_eq_none_iff.2 hone.1]
      · rw [beq_false_of_ne hj]
    | some y =>
      obtain ⟨i, a⟩ := y
      dsimp only
      rw [List.lookup_cons]
      by_cases hj : k = j
      · obtain rfl : k' = i := (hf _ _ hx).2 hj
        subst hj
        simp [hx]
      · have hi : k' ≠ i := fun hi => hj ((hf _ _ hx).1 hi)
        rw [beq_false_of_ne hj, beq_false_of_ne hi, ih hone.2]

end

section

variable {β : Type} {step : σ → β → Except ε σ} {xs : List β}

theorem exists_foldlM (h : ∀ x ∈ xs, ∀ s, ∃ s', step s x = .ok s') (s : σ) :
    ∃ s', xs.foldlM step s = .ok s' := by
  induction xs generalizing s with
  | nil => exact ⟨s, rfl⟩
  | cons x xs ih =>
    obtain ⟨m, hm⟩ := h x List.mem_cons_self s
    obtain ⟨s', hs'⟩ := ih (fun y hy => h y (List.mem_cons_of_mem x hy)) m
    exact ⟨s', by rw [List.foldlM_cons, bind_eq_ok]; exact ⟨m, hm, hs'⟩⟩

/-- If it does not depend on what has been read whether a value can be, then all can be read exactly
if each can. -/
theorem exists_foldlM_iff {Accepts : β → Prop}
    (h : ∀ x ∈ xs, ∀ s, (∃ s', step s x = .ok s') ↔ Accepts x) (s : σ) :
    (∃ s', xs.foldlM step s = .ok s') ↔ ∀ x ∈ xs, Accepts x := by
  refine ⟨?_, fun hx => exists_foldlM (fun x hmem s => (h x hmem s).2 (hx x hmem)) s⟩
  induction xs generalizing s with
  | nil => exact fun _ => nofun
  | cons x xs ih =>
    rintro ⟨s', hrun⟩
    rw [List.foldlM_cons, bind_eq_ok] at hrun
    obtain ⟨m, hm, hrun⟩ := hrun
    rw [List.forall_mem_cons] at h
    exact List.forall_mem_cons.2 ⟨(h.1 s).1 ⟨m, hm⟩, ih h.2 m ⟨s', hrun⟩⟩

end

def Decodes (dec : ν → Except ε α) (a : α) (v : ν) : Prop := dec v = .ok a

theorem leftUnique_decodes (dec : ν → Except ε α) : Relator.LeftUnique (Decodes dec) :=
  fun _ _ _ h h' => Except.ok.inj (h.symm.trans h')

theorem decodes_map {β : Type} {dec : ν → Except ε β} {g : β → α} {b : β} (h : dec v = .ok b) :
    Decodes (fun v => (dec v).map g) (g b) v :=
  map_eq_ok.2 ⟨b, h, rfl⟩

/-- A field that the values of one name set, and no others. -/
structure Slot (step : σ → String × ν → Except ε σ) (name : String) (dec : ν → Except ε α)
    (get : σ → α) : Prop where
  accepts : ∀ {v a}, Decodes dec a v → ∀ s, ∃ s', step s (name, v) = .ok s'
  reads : ∀ {s s' v}, step s (name, v) = .ok s' → Decodes dec (get s') v
  keeps : ∀ {s s' k v}, k ≠ name → step s (k, v) = .ok s' → get s' = get s

namespace Slot

variable {step : σ → String × ν → Except ε σ} {dec : ν → Except ε α} {get : σ → α} {s s' : σ}
  {missing a : α}

theorem exists_step (slot : Slot step name dec get)
    (h : Takes (Decodes dec) missing (named.lookup name) a) :
    ∀ v ∈ named.lookup name, ∀ s, ∃ s', step s (name, v) = .ok s' := by
  rintro v hv s
  rw [Option.mem_def.1 hv] at h
  cases h with
  | given h => exact slot.accepts h s

theorem get_eq_of_notMem (slot : Slot step name dec get) (h : named.foldlM step s = .ok s')
    (hname : name ∉ named.map Prod.fst) : get s' = get s := by
  induction named generalizing s with
  | nil => cases h; rfl
  | cons n named ih =>
    rw [List.map_cons, List.mem_cons, not_or] at hname
    rw [List.foldlM_cons, bind_eq_ok] at h
    obtain ⟨m, hm, h⟩ := h
    rw [ih h hname.2, slot.keeps (Ne.symm hname.1) hm]

/-- The order of the names does not matter. -/
theorem takes (slot : Slot step name dec get) (h : named.foldlM step s = .ok s')
    (hone : (named.map Prod.fst).count name ≤ 1) :
    Takes (Decodes dec) (get s) (named.lookup name) (get s') := by
  induction named generalizing s with
  | nil => cases h; exact .missing
  | cons n named ih =>
    obtain ⟨k, v⟩ := n
    rw [List.foldlM_cons, bind_eq_ok] at h
    obtain ⟨m, hm, h⟩ := h
    by_cases hk : name = k
    · -- what comes after does not touch the field again
      subst hk
      rw [List.lookup_cons_self, slot.get_eq_of_notMem h (notMem_of_count_le hone)]
      exact .given (slot.reads hm)
    · rw [List.map_cons, List.count_cons_of_ne (Ne.symm hk)] at hone
      rw [List.lookup_cons, beq_false_of_ne hk, ← slot.keeps (Ne.symm hk) hm]
      exact ih h hone

theorem get_eq (slot : Slot step name dec get) (h : named.foldlM step s = .ok s')
    (hone : (named.map Prod.fst).count name ≤ 1)
    (ha : Takes (Decodes dec) (get s) (named.lookup name) a) : get s' = a :=
  (slot.takes h hone).unique (leftUnique_decodes dec) ha

end Slot

section

variable {F β : Type} {nameOf : F → String} {read : F → ν → σ → Except ε σ} {fields : List F}
  {other : σ → String → Except ε σ} {dec : ν → Except ε β} {g : β → α} {get : σ → α}
  {set : σ → β → σ}

/-- Reads a named value as the field of that name says. -/
def readEntry (nameOf : F → String) (read : F → ν → σ → Except ε σ) (fields : List F)
    (other : σ → String → Except ε σ) (s : σ) (n : String × ν) : Except ε σ :=
  match fields.find? (nameOf · = n.1) with
  | some f => read f n.2 s
  | none => other s n.1

theorem mem_of_find? {f : F} (h : fields.find? (nameOf · = name) = some f) :
    f ∈ fields ∧ nameOf f = name :=
  ⟨List.mem_of_find?_eq_some h, by simpa using List.find?_some h⟩

theorem readEntry_of_notMem (h : name ∉ fields.map nameOf) (s : σ) (v : ν) :
    readEntry nameOf read fields other s (name, v) = other s name := by
  have hfind : fields.find? (nameOf · = name) = none := by
    rw [List.find?_eq_none]
    intro f hf
    simpa using fun hname => h (List.mem_map.2 ⟨f, hf, hname⟩)
  rw [readEntry, hfind]

theorem slot_readEntry {f : F} (hfind : fields.find? (nameOf · = name) = some f)
    (hread : ∀ v s, read f v s = dec v >>= fun b => pure (set s b))
    (hget : ∀ s b, get (set s b) = g b)
    (hkeeps : ∀ f ∈ fields, nameOf f ≠ name → ∀ {v s s'}, read f v s = .ok s' → get s' = get s)
    (hother : ∀ {s s' k}, other s k = .ok s' → s' = s) :
    Slot (readEntry nameOf read fields other) name (fun v => (dec v).map g) get where
  accepts {v a} h s := by
    obtain ⟨b, hb, -⟩ := map_eq_ok.1 h
    simp only [readEntry, hfind, hread]
    exact ⟨set s b, bind_eq_ok.2 ⟨b, hb, rfl⟩⟩
  reads {s s' v} h := by
    simp only [readEntry, hfind, hread] at h
    obtain ⟨b, hb, h⟩ := bind_eq_ok.1 h
    cases h
    exact map_eq_ok.2 ⟨b, hb, (hget s b).symm⟩
  keeps {s s' k v} hk h := by
    rw [readEntry] at h
    split at h
    · rename_i f hf
      obtain ⟨hmem, rfl⟩ := mem_of_find? hf
      exact hkeeps f hmem hk h
    · rw [hother h]

end
end MergeNotes
