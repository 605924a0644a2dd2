import Mathlib.Data.List.Nodup
import MergeNotes.Toml.Reader

namespace MergeNotes.Toml

/-- No table of the value has a key twice. -/
inductive IsDistinct : Toml → Prop
  | string (s : String) : IsDistinct (.string s)
  | integer (n : Int) : IsDistinct (.integer n)
  | float : IsDistinct .float
  | boolean (b : Bool) : IsDistinct (.boolean b)
  | datetime : IsDistinct .datetime
  | array {items} (h : ∀ v ∈ items, IsDistinct v) : IsDistinct (.array items)
  | table {items} (hkeys : (items.map Prod.fst).Nodup) (h : ∀ e ∈ items, IsDistinct e.2) :
      IsDistinct (.table items)

mutual

inductive Item.IsDistinct : Item → Prop
  | value {v} (h : v.IsDistinct) : Item.IsDistinct (.value v)
  | table {origin items} (h : AreDistinct items) : Item.IsDistinct (.table origin items)
  | tables {elements} (h : ∀ items ∈ elements, AreDistinct items) :
      Item.IsDistinct (.tables elements)

/-- No key is there twice, and the same holds further down. -/
inductive AreDistinct : List (String × Item) → Prop
  | mk {items} (hkeys : (items.map Prod.fst).Nodup) (h : ∀ e ∈ items, e.2.IsDistinct) :
      AreDistinct items

end

theorem keys_itemsToToml (items : Items) :
    (itemsToToml items).map Prod.fst = items.map Prod.fst := by
  induction items with
  | nil => rfl
  | cons e items ih => simp [itemsToToml, ih]

mutual

theorem Item.IsDistinct.toToml : (item : Item) → item.IsDistinct → item.toToml.IsDistinct
  | .value _, .value h => h
  | .table _ items, .table h => isDistinct_itemsToToml items h
  | .tables elements, .tables h => .array (isDistinct_elementsToToml elements h)

theorem isDistinct_itemsToToml : (items : Items) → AreDistinct items →
    (Toml.table (itemsToToml items)).IsDistinct
  | items, .mk hkeys h => by
    refine .table (by rwa [keys_itemsToToml]) ?_
    exact isDistinct_of_mem_itemsToToml items h

theorem isDistinct_of_mem_itemsToToml : (items : Items) → (∀ e ∈ items, e.2.IsDistinct) →
    ∀ e ∈ itemsToToml items, e.2.IsDistinct
  | [], _ => nofun
  | (_, item) :: items, h => by
    rw [List.forall_mem_cons] at h
    exact List.forall_mem_cons.2
      ⟨Item.IsDistinct.toToml item h.1, isDistinct_of_mem_itemsToToml items h.2⟩

theorem isDistinct_elementsToToml : (elements : List Items) →
    (∀ items ∈ elements, AreDistinct items) → ∀ v ∈ elementsToToml elements, v.IsDistinct
  | [], _ => nofun
  | items :: elements, h => by
    rw [List.forall_mem_cons] at h
    exact List.forall_mem_cons.2
      ⟨isDistinct_itemsToToml items h.1, isDistinct_elementsToToml elements h.2⟩

end

variable {items items' : Items} {key : String} {item : Item}

theorem areDistinct_nil : AreDistinct [] := .mk List.nodup_nil nofun

theorem AreDistinct.find? (h : AreDistinct items) (hfind : items.find? key = some item) :
    item.IsDistinct := by
  obtain ⟨-, h⟩ := h
  obtain ⟨before, after, rfl, -⟩ := List.lookup_eq_some_iff.1 hfind
  exact h (key, item) (by simp)

theorem notMem_of_find? (hfind : items.find? key = none) : key ∉ items.map Prod.fst := by
  intro hmem
  obtain ⟨e, he, rfl⟩ := List.mem_map.1 hmem
  exact absurd rfl (bne_iff_ne.1 (List.lookup_eq_none_iff.1 hfind e he))

theorem AreDistinct.concat (h : AreDistinct items) (hkey : key ∉ items.map Prod.fst)
    (hitem : item.IsDistinct) : AreDistinct (items ++ [(key, item)]) := by
  obtain ⟨hkeys, h⟩ := h
  refine .mk ?_ (List.forall_mem_append.2 ⟨h, List.forall_mem_singleton.2 hitem⟩)
  rw [List.map_append]
  exact hkeys.append (List.nodup_singleton key) (List.disjoint_singleton.2 hkey)

theorem AreDistinct.replace (h : AreDistinct items) (hitem : item.IsDistinct) :
    AreDistinct (items.replace key item) := by
  obtain ⟨hkeys, h⟩ := h
  refine .mk ?_ ?_
  · rw [Items.replace, List.map_map]
    exact hkeys
  · intro e he
    obtain ⟨old, hold, rfl⟩ := List.mem_map.1 he
    dsimp only
    split
    · exact hitem
    · exact h old hold

theorem AreDistinct.without (h : AreDistinct items) : AreDistinct (items.without key) := by
  obtain ⟨hkeys, h⟩ := h
  exact .mk (hkeys.sublist (List.filter_sublist.map Prod.fst))
    fun e he => h e (List.mem_of_mem_filter he)

theorem notMem_without : key ∉ (items.without key).map Prod.fst := by
  intro hmem
  obtain ⟨e, he, rfl⟩ := List.mem_map.1 hmem
  simpa using List.of_mem_filter he

theorem AreDistinct.change? {dotted : Bool} {f : Origin → Items → Option Items}
    (hf : ∀ {origin items items'}, AreDistinct items → f origin items = some items' →
      AreDistinct items')
    {path : List String} {origin : Origin} (h : AreDistinct items)
    (hchange : Items.change? dotted f path origin items = some items') : AreDistinct items' := by
  induction path generalizing origin items items' with
  | nil => exact hf h hchange
  | cons key path ih =>
    rw [Items.change?] at hchange
    cases hfind : items.find? key with
    | none =>
      simp only [hfind, Option.bind_eq_bind, Option.bind_eq_some_iff] at hchange
      obtain ⟨inner, hinner, ⟨⟩⟩ := hchange
      exact h.concat (notMem_of_find? hfind) (.table (ih areDistinct_nil hinner))
    | some item =>
      have hitem := h.find? hfind
      cases hitem with
      | value _ =>
        rw [hfind] at hchange
        cases hchange
      | table hinner =>
        simp only [hfind] at hchange
        split_ifs at hchange
        obtain ⟨inner, hinner', ⟨⟩⟩ := Option.bind_eq_some_iff.1 hchange
        exact h.replace (.table (ih hinner hinner'))
      | @tables elements helements =>
        simp only [hfind, Option.bind_eq_bind, Option.bind_eq_some_iff] at hchange
        obtain ⟨last, hlast, last', hlast', ⟨⟩⟩ := hchange
        -- all elements but the last stay as they are
        have hmem := List.mem_of_getLast? hlast
        refine h.replace (.tables (List.forall_mem_append.2 ⟨fun e he => ?_, ?_⟩))
        · exact helements e ((List.dropLast_sublist elements).subset he)
        · exact List.forall_mem_singleton.2 (ih (helements last hmem) hlast')

theorem AreDistinct.define? {path : List String} {v : Toml} {origin : Origin}
    (h : AreDistinct items) (hv : v.IsDistinct)
    (hdefine : Items.define? path key v origin items = some items') : AreDistinct items' := by
  refine h.change? (fun {origin items items'} h hf => ?_) hdefine
  split_ifs at hf with _ hfind
  cases hf
  exact h.concat (notMem_of_find? (by simpa using hfind)) (.value hv)

theorem AreDistinct.openTable? (h : AreDistinct items)
    (hopen : Items.openTable? key items = some items') : AreDistinct items' := by
  unfold Items.openTable? at hopen
  split at hopen
  · rename_i hfind
    cases hopen
    exact h.concat (notMem_of_find? hfind) (.table areDistinct_nil)
  · rename_i inner hfind
    cases hopen
    cases h.find? hfind with
    | table hinner => exact h.without.concat notMem_without (.table hinner)
  · cases hopen

theorem AreDistinct.openElement? (h : AreDistinct items)
    (hopen : Items.openElement? key items = some items') : AreDistinct items' := by
  unfold Items.openElement? at hopen
  split at hopen
  · rename_i hfind
    cases hopen
    exact h.concat (notMem_of_find? hfind) (.tables (List.forall_mem_singleton.2 areDistinct_nil))
  · rename_i elements hfind
    cases hopen
    cases h.find? hfind with
    | tables helements =>
      exact h.replace (.tables (List.forall_mem_append.2
        ⟨helements, List.forall_mem_singleton.2 areDistinct_nil⟩))
  · cases hopen

theorem foldlM_keeps {β γ : Type} {P : β → Prop} {f : β → γ → Option β} {xs : List γ} {b b' : β}
    (hf : ∀ x ∈ xs, ∀ {b b'}, P b → f b x = some b' → P b') (hb : P b)
    (h : xs.foldlM f b = some b') : P b' := by
  induction xs generalizing b with
  | nil => cases h; exact hb
  | cons x xs ih =>
    rw [List.forall_mem_cons] at hf
    rw [List.foldlM_cons, Option.bind_eq_bind, Option.bind_eq_some_iff] at h
    obtain ⟨m, hm, h⟩ := h
    exact ih hf.2 (hf.1 hb hm) h

theorem isDistinct_of_inline? {pairs : List (List String × String × Toml)} {v : Toml}
    (hpairs : ∀ p ∈ pairs, p.2.2.IsDistinct) (h : inline? pairs = some v) : v.IsDistinct := by
  obtain ⟨items, hitems, ⟨⟩⟩ := Option.bind_eq_some_iff.1 h
  refine isDistinct_itemsToToml items (foldlM_keeps (fun p hp {_ _} h hdefine => ?_)
    areDistinct_nil hitems)
  exact h.define? (hpairs p hp) hdefine

def Statement.IsDistinct : Statement → Prop
  | .define _ _ v => v.IsDistinct
  | _ => True

theorem AreDistinct.step? {d d' : Draft} {s : Statement} (h : AreDistinct d.items)
    (hs : s.IsDistinct) (hstep : d.step? s = some d') : AreDistinct d'.items := by
  cases s with
  | define path key v =>
    obtain ⟨items, hitems, ⟨⟩⟩ := Option.bind_eq_some_iff.1 hstep
    exact h.change? (fun h hf => h.define? hs hf) hitems
  | openTable path key =>
    obtain ⟨items, hitems, ⟨⟩⟩ := Option.bind_eq_some_iff.1 hstep
    exact h.change? (fun h hf => h.openTable? hf) hitems
  | openElement path key =>
    obtain ⟨items, hitems, ⟨⟩⟩ := Option.bind_eq_some_iff.1 hstep
    exact h.change? (fun h hf => h.openElement? hf) hitems

theorem isDistinct_of_ofStatements? {statements : List Statement} {pairs : List (String × Toml)}
    (hs : ∀ s ∈ statements, s.IsDistinct) (h : ofStatements? statements = some pairs) :
    (Toml.table pairs).IsDistinct := by
  obtain ⟨d, hd, ⟨⟩⟩ := Option.bind_eq_some_iff.1 h
  refine isDistinct_itemsToToml d.items ?_
  exact foldlM_keeps (P := fun d => AreDistinct d.items)
    (fun s hmem {_ _} h hstep => h.step? (hs s hmem) hstep) areDistinct_nil hd

theorem isDistinct_of_readDatetime? {cs rest : List Char} {v : Toml}
    (h : readDatetime? cs = some (v, rest)) : v.IsDistinct := by
  unfold readDatetime? at h
  split at h
  · cases h
    exact .datetime
  · obtain ⟨_, -, ⟨⟩⟩ := Option.map_eq_some_iff.1 h
    exact .datetime

theorem isDistinct_of_readFloat? {cs rest : List Char} {v : Toml}
    (h : readFloat? cs = some (v, rest)) : v.IsDistinct := by
  obtain ⟨⟨whole, after⟩, -, h⟩ := Option.bind_eq_some_iff.1 h
  dsimp only at h
  split at h
  all_goals
    obtain ⟨⟨_, after⟩, -, h⟩ := Option.bind_eq_some_iff.1 h
    obtain ⟨⟨d, after⟩, -, h⟩ := Option.bind_eq_some_iff.1 h
    dsimp only at h
    split_ifs at h
    cases h
    exact .float

theorem isDistinct_of_readSpecialFloat? {cs rest : List Char} {v : Toml}
    (h : readSpecialFloat? cs = some (v, rest)) : v.IsDistinct := by
  unfold readSpecialFloat? at h
  split at h <;> cases h <;> exact .float

theorem isDistinct_of_integer? {n : Int} {v : Toml} (h : integer? n = some v) : v.IsDistinct := by
  unfold integer? at h
  split_ifs at h
  cases h
  exact .integer n

theorem isDistinct_of_readBased? {base : Nat} {cs rest : List Char} {v : Toml}
    (h : readBased? base cs = some (v, rest)) : v.IsDistinct := by
  obtain ⟨⟨ds, after⟩, -, h⟩ := Option.bind_eq_some_iff.1 h
  obtain ⟨v', hv, ⟨⟩⟩ := Option.bind_eq_some_iff.1 h
  exact isDistinct_of_integer? hv

theorem isDistinct_of_readInteger? {cs rest : List Char} {v : Toml}
    (h : readInteger? cs = some (v, rest)) : v.IsDistinct := by
  unfold readInteger? at h
  split at h
  · exact isDistinct_of_readBased? h
  · exact isDistinct_of_readBased? h
  · exact isDistinct_of_readBased? h
  · obtain ⟨⟨ds, after⟩, -, h⟩ := Option.bind_eq_some_iff.1 h
    obtain ⟨v', hv, ⟨⟩⟩ := Option.bind_eq_some_iff.1 h
    exact isDistinct_of_integer? hv

theorem isDistinct_of_readNumber? {cs rest : List Char} {v : Toml}
    (h : readNumber? cs = some (v, rest)) : v.IsDistinct := by
  simp only [readNumber?, Option.orElse_eq_orElse, Option.orElse_eq_or, Option.or_eq_some_iff] at h
  rcases h with h | ⟨-, h | ⟨-, h | ⟨-, h⟩⟩⟩
  · exact isDistinct_of_readDatetime? h
  · exact isDistinct_of_readFloat? h
  · exact isDistinct_of_readSpecialFloat? h
  · exact isDistinct_of_readInteger? h

/-- What is read with so much fuel has no table with a key twice. -/
structure ReadsDistinct (fuel : Nat) : Prop where
  value : ∀ {depth cs v rest}, readValue? fuel depth cs = some (v, rest) → v.IsDistinct
  items : ∀ {depth cs vs rest}, readItems? fuel depth cs = some (vs, rest) →
    ∀ v ∈ vs, v.IsDistinct
  pairs : ∀ {depth cs ps rest}, readPairs? fuel depth cs = some (ps, rest) →
    ∀ p ∈ ps, p.2.2.IsDistinct

section

variable {fuel depth : Nat} {cs rest : List Char}

theorem ReadsDistinct.readValue? {v : Toml} (hread : ReadsDistinct fuel)
    (h : readValue? (fuel + 1) depth cs = some (v, rest)) : v.IsDistinct := by
  unfold Toml.readValue? at h
  split at h
  · split_ifs at h
    obtain ⟨⟨vs, rest'⟩, hvs, ⟨⟩⟩ := Option.bind_eq_some_iff.1 h
    exact .array (hread.items hvs)
  · split_ifs at h
    split at h
    · cases h
      exact .table List.nodup_nil nofun
    · obtain ⟨⟨ps, rest'⟩, hps, h⟩ := Option.bind_eq_some_iff.1 h
      obtain ⟨v', hv', ⟨⟩⟩ := Option.bind_eq_some_iff.1 h
      exact isDistinct_of_inline? (hread.pairs hps) hv'
  · cases h
    exact .boolean _
  · cases h
    exact .boolean _
  · split at h
    · cases h
      exact .string _
    · exact isDistinct_of_readNumber? h

theorem ReadsDistinct.readItems? {vs : List Toml} (hread : ReadsDistinct fuel)
    (h : readItems? (fuel + 1) depth cs = some (vs, rest)) : ∀ v ∈ vs, v.IsDistinct := by
  unfold Toml.readItems? at h
  split at h
  · cases h
    exact nofun
  · obtain ⟨⟨v, rest'⟩, hv, h⟩ := Option.bind_eq_some_iff.1 h
    dsimp only at h
    split at h
    · obtain ⟨⟨vs', rest''⟩, hvs, ⟨⟩⟩ := Option.bind_eq_some_iff.1 h
      exact List.forall_mem_cons.2 ⟨hread.value hv, hread.items hvs⟩
    · cases h
      exact List.forall_mem_singleton.2 (hread.value hv)
    · cases h

theorem ReadsDistinct.readPairs? {ps : List (List String × String × Toml)}
    (hread : ReadsDistinct fuel) (h : readPairs? (fuel + 1) depth cs = some (ps, rest)) :
    ∀ p ∈ ps, p.2.2.IsDistinct := by
  unfold Toml.readPairs? at h
  obtain ⟨⟨⟨path, key⟩, rest'⟩, -, h⟩ := Option.bind_eq_some_iff.1 h
  dsimp only at h
  split at h
  · obtain ⟨⟨v, rest''⟩, hv, h⟩ := Option.bind_eq_some_iff.1 h
    dsimp only at h
    split at h
    · obtain ⟨⟨ps', _⟩, hps, ⟨⟩⟩ := Option.bind_eq_some_iff.1 h
      exact List.forall_mem_cons.2 ⟨hread.value hv, hread.pairs hps⟩
    · cases h
      exact List.forall_mem_singleton.2 (hread.value hv)
    · cases h
  · cases h

end

theorem readsDistinct (fuel : Nat) : ReadsDistinct fuel := by
  induction fuel with
  | zero => exact ⟨nofun, nofun, nofun⟩
  | succ fuel ih => exact ⟨ih.readValue?, ih.readItems?, ih.readPairs?⟩

theorem isDistinct_of_readStatement? {cs rest : List Char} {s : Statement}
    (h : readStatement? cs = some (s, rest)) : s.IsDistinct := by
  unfold readStatement? at h
  split at h
  all_goals
    obtain ⟨⟨⟨path, key⟩, after⟩, -, h⟩ := Option.bind_eq_some_iff.1 h
    dsimp only at h
    split at h
    on_goal 2 => cases h
  · obtain ⟨after, -, ⟨⟩⟩ := Option.bind_eq_some_iff.1 h
    trivial
  · obtain ⟨after, -, ⟨⟩⟩ := Option.bind_eq_some_iff.1 h
    trivial
  · obtain ⟨⟨v, after⟩, hv, h⟩ := Option.bind_eq_some_iff.1 h
    obtain ⟨after, -, ⟨⟩⟩ := Option.bind_eq_some_iff.1 h
    exact (readsDistinct _).value hv

theorem isDistinct_of_readStatements? {fuel : Nat} {cs : List Char} {ss : List Statement}
    (h : readStatements? fuel cs = some ss) : ∀ s ∈ ss, s.IsDistinct := by
  induction fuel generalizing cs ss with
  | zero => cases h
  | succ fuel ih =>
    unfold readStatements? at h
    split at h
    · cases h
      exact nofun
    · split_ifs at h
      · obtain ⟨rest, -, h⟩ := Option.bind_eq_some_iff.1 h
        exact ih h
      · obtain ⟨⟨s, rest⟩, hs, h⟩ := Option.bind_eq_some_iff.1 h
        obtain ⟨ss', hss, ⟨⟩⟩ := Option.bind_eq_some_iff.1 h
        exact List.forall_mem_cons.2 ⟨isDistinct_of_readStatement? hs, ih hss⟩

theorem isDistinct_of_ofText? {text : List Char} {pairs : List (String × Toml)}
    (h : ofText? text = some pairs) : (Toml.table pairs).IsDistinct := by
  obtain ⟨statements, hs, h⟩ := Option.bind_eq_some_iff.1 h
  exact isDistinct_of_ofStatements? (isDistinct_of_readStatements? hs) h

end MergeNotes.Toml
