import Mathlib
import MergeNotes.Load
import MergeNotes.Proofs.Keyed
import MergeNotes.Proofs.TomlTables

namespace MergeNotes.Config

/-- A name, or the one key of a table that holds nothing. -/
inductive IsRule (r : Rule) : Toml → Prop
  | name : IsRule r (.string r.name)
  | table : IsRule r (.table [(r.name, .table [])])
  | array : IsRule r (.table [(r.name, .array [])])

def IsText (s : String) (v : Toml) : Prop := v = .string s

def IsPath (p : Path) (v : Toml) : Prop := v = .string p.text

def AreTexts (ss : List String) (v : Toml) : Prop := v = .array (ss.map .string)

def IsCount (n : Nat) (v : Toml) : Prop := n < UInt32.size ∧ v = .integer n

abbrev Kinds := List (String × (Toml → Prop))

def Gives {α : Type} (Is : α → Toml → Prop) (v : Toml) : Prop := ∃ a, Is a v

/-- Every name is one of those, and has a value that it takes. -/
def Fits (kinds : Kinds) (pairs : List (String × Toml)) : Prop :=
  ∀ e ∈ pairs, ∃ kind, kinds.lookup e.1 = some kind ∧ kind e.2

inductive IsSection (kinds : Kinds) : Toml → Prop
  | mk {pairs} (h : Fits kinds pairs) : IsSection kinds (.table pairs)

def changelogKinds : Kinds := [("path", Gives IsPath)]

def extractionKinds : Kinds :=
  [("rule", Gives IsRule), ("fields", Gives AreTexts), ("skip_marker", Gives IsText)]

def entryKinds : Kinds := [("template", Gives IsText)]

def commitKinds : Kinds :=
  [("author_name", Gives IsText), ("author_email", Gives IsText), ("message", Gives IsText)]

def pushKinds : Kinds :=
  [("remote", Gives IsText), ("token_env", Gives IsText), ("rebase_retries", Gives IsCount)]

def declared : Kinds :=
  [("changelog", IsSection changelogKinds), ("extraction", IsSection extractionKinds),
    ("entry", IsSection entryKinds), ("commit", IsSection commitKinds),
    ("push", IsSection pushKinds)]

/-- What a document has for a key of a section. -/
def given (pairs : List (String × Toml)) (heading key : String) : Option Toml :=
  match pairs.lookup heading with
  | some (.table items) => items.lookup key
  | _ => none

/-- Every key that is given sets its value; every other is as it is without a document. -/
structure IsConfigured (pairs : List (String × Toml)) (c : Config) : Prop where
  path : Takes IsPath ({} : Config).changelog.path (given pairs "changelog" "path")
    c.changelog.path
  rule : Takes IsRule ({} : Config).extraction.rule (given pairs "extraction" "rule")
    c.extraction.rule
  fields : Takes AreTexts ({} : Config).extraction.fields (given pairs "extraction" "fields")
    c.extraction.fields
  skipMarker : Takes IsText ({} : Config).extraction.skipMarker
    (given pairs "extraction" "skip_marker") c.extraction.skipMarker
  template : Takes IsText ({} : Config).entry.template (given pairs "entry" "template")
    c.entry.template
  authorName : Takes IsText ({} : Config).commit.authorName (given pairs "commit" "author_name")
    c.commit.authorName
  authorEmail : Takes IsText ({} : Config).commit.authorEmail
    (given pairs "commit" "author_email") c.commit.authorEmail
  message : Takes IsText ({} : Config).commit.message (given pairs "commit" "message")
    c.commit.message
  remote : Takes IsText ({} : Config).push.remote (given pairs "push" "remote") c.push.remote
  tokenEnv : Takes IsText ({} : Config).push.tokenEnv (given pairs "push" "token_env")
    c.push.tokenEnv
  retries : Takes IsCount ({} : Config).push.retries (given pairs "push" "rebase_retries")
    c.push.retries

/-! Values -/

theorem readText_eq_ok {expected : String} {v : Toml} {s : String} :
    readText expected v = .ok s ↔ IsText s v := by
  cases v <;> simp [readText, IsText]

theorem mapM_readText_eq_ok {expected : String} {items : List Toml} {ss : List String} :
    items.mapM (readText expected) = .ok ss ↔ items = ss.map .string := by
  induction items generalizing ss with
  | nil =>
    constructor
    · rintro ⟨⟩
      rfl
    · intro h
      cases ss with
      | nil => rfl
      | cons s ss => cases h
  | cons v items ih =>
    rw [List.mapM_cons, bind_eq_ok]
    constructor
    · rintro ⟨s, hs, h⟩
      obtain ⟨rest, hrest, ⟨⟩⟩ := bind_eq_ok.1 h
      rw [readText_eq_ok.1 hs, ih.1 hrest, List.map_cons]
    · intro h
      cases ss with
      | nil => cases h
      | cons s rest =>
        rw [List.map_cons, List.cons.injEq] at h
        exact ⟨s, readText_eq_ok.2 h.1, bind_eq_ok.2 ⟨rest, ih.2 h.2, rfl⟩⟩

theorem readTexts_eq_ok {v : Toml} {ss : List String} : readTexts v = .ok ss ↔ AreTexts ss v := by
  cases v with
  | array items => rw [readTexts, AreTexts, Toml.array.injEq, mapM_readText_eq_ok]
  | _ => simp [readTexts, AreTexts]

theorem ofName?_eq_some {name : String} {r : Rule} :
    Rule.ofName? name = some r ↔ name = r.name := by
  constructor
  · intro h
    unfold Rule.ofName? at h
    split at h <;> cases h <;> rfl
  · rintro rfl
    cases r <;> rfl

theorem readRuleName_eq_ok {name : String} {r : Rule} :
    readRuleName name = .ok r ↔ name = r.name := by
  rw [← ofName?_eq_some, readRuleName]
  cases Rule.ofName? name <;> simp

theorem readRule_eq_ok {v : Toml} {r : Rule} : readRule v = .ok r ↔ IsRule r v := by
  constructor
  · intro h
    unfold readRule at h
    split at h
    · rw [readRuleName_eq_ok.1 h]
      exact .name
    · obtain ⟨r', hname, h⟩ := bind_eq_ok.1 h
      split at h
      · cases h
        rw [readRuleName_eq_ok.1 hname]
        exact .table
      · cases h
        rw [readRuleName_eq_ok.1 hname]
        exact .array
      · cases h
    · cases h
  · intro h
    have hname := readRuleName_eq_ok.2 (rfl : r.name = r.name)
    cases h with
    | name => exact hname
    | table => exact bind_eq_ok.2 ⟨r, hname, rfl⟩
    | array => exact bind_eq_ok.2 ⟨r, hname, rfl⟩

theorem readCount_eq_ok {v : Toml} {n : Nat} : readCount v = .ok n ↔ IsCount n v := by
  cases v with
  | integer i =>
    rw [readCount, IsCount, Toml.integer.injEq]
    split_ifs with h
    · rw [Except.ok.injEq]
      omega
    · simp only [false_iff]
      omega
  | _ => simp [readCount, IsCount]

/-! Sections -/

variable {σ α β : Type} {keys : List (Key σ)} {kinds : Kinds} {name : String} {v : Toml}

theorem readPair_eq (keys : List (Key σ)) :
    readPair keys = readEntry Key.name Key.read keys fun _ k => .error (unknownKey keys k) := by
  funext s e
  rw [readPair, readEntry]
  cases keys.find? (·.name = e.1) <;> rfl

def Key.Matches (v : Toml) (key : Key σ) (kind : String × (Toml → Prop)) : Prop :=
  key.name = kind.1 ∧ ∀ s, (∃ s', key.read v s = .ok s') ↔ kind.2 v

theorem exists_readEntry_iff {other : σ → String → Except Misread σ}
    (hother : ∀ s k s', other s k ≠ .ok s') (h : List.Forall₂ (Key.Matches v) keys kinds) (s : σ) :
    (∃ s', readEntry Key.name Key.read keys other s (name, v) = .ok s') ↔
      ∃ kind, kinds.lookup name = some kind ∧ kind v := by
  -- what is said of an unknown name lists all keys, so it is held fixed while keys are taken off
  induction h with
  | nil => simp [readEntry, hother]
  | @cons key kind keys kinds hkey _ ih =>
    obtain ⟨k, kind⟩ := kind
    obtain ⟨rfl, hread⟩ := hkey
    by_cases hname : name = key.name
    · subst hname
      simpa [readEntry] using hread s
    · rw [List.lookup_cons, beq_false_of_ne hname, ← ih, readEntry, readEntry,
        List.find?_cons_of_neg (by simpa using Ne.symm hname)]

theorem exists_readPair_iff (h : List.Forall₂ (Key.Matches v) keys kinds) (s : σ) :
    (∃ s', readPair keys s (name, v) = .ok s') ↔
      ∃ kind, kinds.lookup name = some kind ∧ kind v := by
  rw [readPair_eq]
  exact exists_readEntry_iff (fun _ _ _ h => by cases h) h s

theorem matches_of_eq {key : Key σ} {kind : Toml → Prop} {dec : Toml → Except Misread β}
    {set : σ → β → σ} (hread : ∀ s, key.read v s = dec v >>= fun b => pure (set s b))
    (hdec : (∃ b, dec v = .ok b) ↔ kind v) : Key.Matches v key (key.name, kind) := by
  refine ⟨rfl, fun s => ?_⟩
  rw [hread]
  refine Iff.trans ⟨?_, ?_⟩ hdec
  · rintro ⟨s', h⟩
    obtain ⟨b, hb, -⟩ := bind_eq_ok.1 h
    exact ⟨b, hb⟩
  · rintro ⟨b, hb⟩
    exact ⟨set s b, bind_eq_ok.2 ⟨b, hb, rfl⟩⟩

theorem exists_readText_iff {expected : String} :
    (∃ s, readText expected v = .ok s) ↔ Gives IsText v :=
  exists_congr fun _ => readText_eq_ok

theorem gives_path_iff : Gives IsPath v ↔ Gives IsText v :=
  ⟨fun ⟨p, h⟩ => ⟨p.text, h⟩, fun ⟨s, h⟩ => ⟨⟨s⟩, h⟩⟩

theorem matches_changelog : List.Forall₂ (Key.Matches v) changelogKeys changelogKinds :=
  .cons (matches_of_eq (fun _ => rfl) (exists_readText_iff.trans gives_path_iff.symm)) .nil

theorem matches_extraction : List.Forall₂ (Key.Matches v) extractionKeys extractionKinds :=
  .cons (matches_of_eq (fun _ => rfl) (exists_congr fun _ => readRule_eq_ok)) <|
    .cons (matches_of_eq (fun _ => rfl) (exists_congr fun _ => readTexts_eq_ok)) <|
      .cons (matches_of_eq (fun _ => rfl) exists_readText_iff) .nil

theorem matches_entry : List.Forall₂ (Key.Matches v) entryKeys entryKinds :=
  .cons (matches_of_eq (fun _ => rfl) exists_readText_iff) .nil

theorem matches_commit : List.Forall₂ (Key.Matches v) commitKeys commitKinds :=
  .cons (matches_of_eq (fun _ => rfl) exists_readText_iff) <|
    .cons (matches_of_eq (fun _ => rfl) exists_readText_iff) <|
      .cons (matches_of_eq (fun _ => rfl) exists_readText_iff) .nil

theorem matches_push : List.Forall₂ (Key.Matches v) pushKeys pushKinds :=
  .cons (matches_of_eq (fun _ => rfl) exists_readText_iff) <|
    .cons (matches_of_eq (fun _ => rfl) exists_readText_iff) <|
      .cons (matches_of_eq (fun _ => rfl) (exists_congr fun _ => readCount_eq_ok)) .nil

/-- A section can be read exactly if all its keys are declared and have values that they take. -/
theorem exists_readSection_iff {expected : String} {defaults : σ}
    (h : ∀ v, List.Forall₂ (Key.Matches v) keys kinds) (items : List (String × Toml)) :
    (∃ s, readSection expected keys defaults (.table items) = .ok s) ↔
      IsSection kinds (.table items) := by
  rw [readSection, exists_foldlM_iff fun e _ s => exists_readPair_iff (h e.2) s]
  exact ⟨fun hfits => .mk hfits, fun ⟨hfits⟩ => hfits⟩

theorem matches_section {key : Key Config} {what : String} {defaults : σ}
    {set : Config → σ → Config} {items : List (String × Toml)}
    (hread : ∀ c, key.read (.table items) c =
      readSection what keys defaults (.table items) >>= fun s => pure (set c s))
    (h : ∀ v, List.Forall₂ (Key.Matches v) keys kinds) :
    Key.Matches (.table items) key (key.name, IsSection kinds) :=
  matches_of_eq hread (exists_readSection_iff h items)

theorem matches_sections (items : List (String × Toml)) :
    List.Forall₂ (Key.Matches (.table items)) sectionKeys declared :=
  .cons (matches_section (fun _ => rfl) fun _ => matches_changelog) <|
    .cons (matches_section (fun _ => rfl) fun _ => matches_extraction) <|
      .cons (matches_section (fun _ => rfl) fun _ => matches_entry) <|
        .cons (matches_section (fun _ => rfl) fun _ => matches_commit) <|
          .cons (matches_section (fun _ => rfl) fun _ => matches_push) .nil

/-- A document can be read exactly if its sections and keys are declared. -/
theorem exists_ofTable_iff {pairs : List (String × Toml)}
    (htables : ∀ e ∈ pairs, ∃ items, e.2 = .table items) :
    (∃ c, ofTable pairs = .ok c) ↔ Fits declared pairs := by
  rw [ofTable, readSection, exists_foldlM_iff fun e he s => ?_]
  · rfl
  · obtain ⟨name, v⟩ := e
    obtain ⟨items, rfl⟩ := htables _ he
    exact exists_readPair_iff (matches_sections items) s

/-! Fields -/

theorem slot_readPair {key : Key σ} {dec : Toml → Except Misread β} {g : β → α} {get : σ → α}
    {set : σ → β → σ} (hfind : keys.find? (·.name = name) = some key)
    (hread : ∀ v s, key.read v s = dec v >>= fun b => pure (set s b))
    (hget : ∀ s b, get (set s b) = g b)
    (hkeeps : ∀ key ∈ keys, key.name ≠ name → ∀ {v s s'}, key.read v s = .ok s' → get s' = get s) :
    Slot (readPair keys) name (fun v => (dec v).map g) get := by
  rw [readPair_eq]
  exact slot_readEntry hfind hread hget hkeeps fun h => by cases h

theorem slot_path : Slot (readPair changelogKeys) "path"
    (fun v => (readText "path string" v).map Path.mk) Changelog.path :=
  slot_readPair rfl (fun _ _ => rfl) (fun _ _ => rfl)
    (by simp [changelogKeys, bind_eq_ok, pure, Except.pure])

theorem slot_rule : Slot (readPair extractionKeys) "rule"
    (fun v => (readRule v).map id) Extraction.rule :=
  slot_readPair rfl (fun _ _ => rfl) (fun _ _ => rfl)
    (by simp [extractionKeys, bind_eq_ok, pure, Except.pure])

theorem slot_fields : Slot (readPair extractionKeys) "fields"
    (fun v => (readTexts v).map id) Extraction.fields :=
  slot_readPair rfl (fun _ _ => rfl) (fun _ _ => rfl)
    (by simp [extractionKeys, bind_eq_ok, pure, Except.pure])

theorem slot_skipMarker : Slot (readPair extractionKeys) "skip_marker"
    (fun v => (readText "a string" v).map id) Extraction.skipMarker :=
  slot_readPair rfl (fun _ _ => rfl) (fun _ _ => rfl)
    (by simp [extractionKeys, bind_eq_ok, pure, Except.pure])

theorem slot_template : Slot (readPair entryKeys) "template"
    (fun v => (readText "a string" v).map id) Entry.template :=
  slot_readPair rfl (fun _ _ => rfl) (fun _ _ => rfl)
    (by simp [entryKeys, bind_eq_ok, pure, Except.pure])

theorem slot_authorName : Slot (readPair commitKeys) "author_name"
    (fun v => (readText "a string" v).map id) Commit.authorName :=
  slot_readPair rfl (fun _ _ => rfl) (fun _ _ => rfl)
    (by simp [commitKeys, bind_eq_ok, pure, Except.pure])

theorem slot_authorEmail : Slot (readPair commitKeys) "author_email"
    (fun v => (readText "a string" v).map id) Commit.authorEmail :=
  slot_readPair rfl (fun _ _ => rfl) (fun _ _ => rfl)
    (by simp [commitKeys, bind_eq_ok, pure, Except.pure])

theorem slot_message : Slot (readPair commitKeys) "message"
    (fun v => (readText "a string" v).map id) Commit.message :=
  slot_readPair rfl (fun _ _ => rfl) (fun _ _ => rfl)
    (by simp [commitKeys, bind_eq_ok, pure, Except.pure])

theorem slot_remote : Slot (readPair pushKeys) "remote"
    (fun v => (readText "a string" v).map id) Push.remote :=
  slot_readPair rfl (fun _ _ => rfl) (fun _ _ => rfl)
    (by simp [pushKeys, bind_eq_ok, pure, Except.pure])

theorem slot_tokenEnv : Slot (readPair pushKeys) "token_env"
    (fun v => (readText "a string" v).map id) Push.tokenEnv :=
  slot_readPair rfl (fun _ _ => rfl) (fun _ _ => rfl)
    (by simp [pushKeys, bind_eq_ok, pure, Except.pure])

theorem slot_retries : Slot (readPair pushKeys) "rebase_retries"
    (fun v => (readCount v).map id) Push.retries :=
  slot_readPair rfl (fun _ _ => rfl) (fun _ _ => rfl)
    (by simp [pushKeys, bind_eq_ok, pure, Except.pure])

theorem slot_changelog : Slot (readPair sectionKeys) "changelog"
    (fun v => (readSection "struct ChangelogConfig" changelogKeys {} v).map id) changelog :=
  slot_readPair rfl (fun _ _ => rfl) (fun _ _ => rfl)
    (by simp [sectionKeys, bind_eq_ok, pure, Except.pure])

theorem slot_extraction : Slot (readPair sectionKeys) "extraction"
    (fun v => (readSection "struct ExtractionConfig" extractionKeys {} v).map id) extraction :=
  slot_readPair rfl (fun _ _ => rfl) (fun _ _ => rfl)
    (by simp [sectionKeys, bind_eq_ok, pure, Except.pure])

theorem slot_entry : Slot (readPair sectionKeys) "entry"
    (fun v => (readSection "struct EntryConfig" entryKeys {} v).map id) entry :=
  slot_readPair rfl (fun _ _ => rfl) (fun _ _ => rfl)
    (by simp [sectionKeys, bind_eq_ok, pure, Except.pure])

theorem slot_commit : Slot (readPair sectionKeys) "commit"
    (fun v => (readSection "struct CommitConfig" commitKeys {} v).map id) commit :=
  slot_readPair rfl (fun _ _ => rfl) (fun _ _ => rfl)
    (by simp [sectionKeys, bind_eq_ok, pure, Except.pure])

theorem slot_push : Slot (readPair sectionKeys) "push"
    (fun v => (readSection "struct PushConfig" pushKeys {} v).map id) push :=
  slot_readPair rfl (fun _ _ => rfl) (fun _ _ => rfl)
    (by simp [sectionKeys, bind_eq_ok, pure, Except.pure])

structure IsRead (pairs : List (String × Toml)) (c : Config) : Prop where
  distinct : (Toml.table pairs).IsDistinct
  tables : ∀ e ∈ pairs, ∃ items, e.2 = .table items
  read : ofTable pairs = .ok c

theorem count_le_of_isDistinct {pairs : List (String × Toml)} (h : (Toml.table pairs).IsDistinct) :
    (pairs.map Prod.fst).count name ≤ 1 := by
  cases h with
  | table hkeys _ => exact List.nodup_iff_count_le_one.1 hkeys name

theorem isDistinct_of_lookup {pairs : List (String × Toml)} (h : (Toml.table pairs).IsDistinct)
    (hfound : pairs.lookup name = some v) : v.IsDistinct := by
  obtain ⟨before, after, rfl, -⟩ := List.lookup_eq_some_iff.1 hfound
  cases h with
  | table _ h => exact h (name, v) (by simp)

theorem IsRead.takes {pairs : List (String × Toml)} {c : Config} {heading key what : String}
    {defaults : σ} {dec : Toml → Except Misread β} {g : β → α} {getSection : Config → σ}
    {get : σ → α} {Is : α → Toml → Prop} (h : IsRead pairs c)
    (outer : Slot (readPair sectionKeys) heading
      (fun v => (readSection what keys defaults v).map id) getSection)
    (inner : Slot (readPair keys) key (fun v => (dec v).map g) get)
    (hdefaults : getSection {} = defaults) (hdec : ∀ {v b}, dec v = .ok b → Is (g b) v) :
    Takes Is (get defaults) (given pairs heading key) (get (getSection c)) := by
  have houter := outer.takes h.read (count_le_of_isDistinct h.distinct)
  rw [hdefaults] at houter
  rw [given]
  cases hfound : pairs.lookup heading with
  | none =>
    -- without its section, a key is missing too
    rw [hfound, takes_none_iff] at houter
    rw [houter]
    exact .missing
  | some v =>
    obtain ⟨before, after, hpairs, -⟩ := List.lookup_eq_some_iff.1 hfound
    obtain ⟨items, rfl⟩ : ∃ items, v = .table items := h.tables (heading, v) (by simp [hpairs])
    rw [hfound, takes_some_iff] at houter
    obtain ⟨s, hs, rfl⟩ := map_eq_ok.1 houter
    have hitems : (items.map Prod.fst).count key ≤ 1 :=
      count_le_of_isDistinct (isDistinct_of_lookup h.distinct hfound)
    refine (inner.takes hs hitems).mono fun v a ha => ?_
    obtain ⟨b, hb, rfl⟩ := map_eq_ok.1 ha
    exact hdec hb

theorem IsRead.isConfigured {pairs : List (String × Toml)} {c : Config} (h : IsRead pairs c) :
    IsConfigured pairs c where
  path := h.takes slot_changelog slot_path rfl readText_eq_ok.1
  rule := h.takes slot_extraction slot_rule rfl readRule_eq_ok.1
  fields := h.takes slot_extraction slot_fields rfl readTexts_eq_ok.1
  skipMarker := h.takes slot_extraction slot_skipMarker rfl readText_eq_ok.1
  template := h.takes slot_entry slot_template rfl readText_eq_ok.1
  authorName := h.takes slot_commit slot_authorName rfl readText_eq_ok.1
  authorEmail := h.takes slot_commit slot_authorEmail rfl readText_eq_ok.1
  message := h.takes slot_commit slot_message rfl readText_eq_ok.1
  remote := h.takes slot_push slot_remote rfl readText_eq_ok.1
  tokenEnv := h.takes slot_push slot_tokenEnv rfl readText_eq_ok.1
  retries := h.takes slot_push slot_retries rfl readCount_eq_ok.1

/-! The configuration of a document -/

theorem leftUnique_of_eq_ok {dec : Toml → Except Misread α} {Is : α → Toml → Prop}
    (hdec : ∀ {v a}, dec v = .ok a ↔ Is a v) : Relator.LeftUnique Is :=
  fun _ _ _ h h' => leftUnique_decodes dec (hdec.2 h) (hdec.2 h')

theorem leftUnique_isText : Relator.LeftUnique IsText :=
  fun _ _ _ h h' => Toml.string.inj (h.symm.trans h')

theorem leftUnique_isPath : Relator.LeftUnique IsPath :=
  fun _ _ _ h h' => congrArg Path.mk (Toml.string.inj (h.symm.trans h'))

theorem IsConfigured.unique {pairs : List (String × Toml)} {c c' : Config}
    (h : IsConfigured pairs c) (h' : IsConfigured pairs c') : c = c' := by
  obtain ⟨⟨path⟩, ⟨rule, fields, skipMarker⟩, ⟨template⟩, ⟨authorName, authorEmail, message⟩,
    ⟨remote, tokenEnv, retries⟩⟩ := c
  congr
  · exact h.path.unique leftUnique_isPath h'.path
  · exact h.rule.unique (leftUnique_of_eq_ok readRule_eq_ok) h'.rule
  · exact h.fields.unique (leftUnique_of_eq_ok readTexts_eq_ok) h'.fields
  · exact h.skipMarker.unique leftUnique_isText h'.skipMarker
  · exact h.template.unique leftUnique_isText h'.template
  · exact h.authorName.unique leftUnique_isText h'.authorName
  · exact h.authorEmail.unique leftUnique_isText h'.authorEmail
  · exact h.message.unique leftUnique_isText h'.message
  · exact h.remote.unique leftUnique_isText h'.remote
  · exact h.tokenEnv.unique leftUnique_isText h'.tokenEnv
  · exact h.retries.unique (leftUnique_of_eq_ok readCount_eq_ok) h'.retries

theorem fault?_eq (c : Config) :
    c.fault? = [c.changelog.fault?, c.extraction.fault?, c.entry.fault?, c.commit.fault?,
      c.push.fault?].findSome? id := by
  simp only [fault?, List.findSome?_cons, List.findSome?_nil, id]
  cases c.changelog.fault? <;> cases c.extraction.fault? <;> cases c.entry.fault? <;>
    cases c.commit.fault? <;> cases c.push.fault? <;> rfl

/-- A document of tables is read exactly if its sections and keys are declared, as the configuration
that has what is given and is else as it is without a document; the first check that this fails is
reported. -/
theorem parse_sections {text : String} {pairs : List (String × Toml)}
    (htext : Toml.ofText? text.toList = some pairs)
    (htables : ∀ e ∈ pairs, ∃ items, e.2 = .table items) :
    (¬Fits declared pairs → ∃ m, Config.parse text = .error (.configMisread m)) ∧
      (Fits declared pairs →
        (∃ c, IsConfigured pairs c) ∧
          ∀ c, IsConfigured pairs c →
            Config.parse text =
              match [c.changelog.fault?, c.extraction.fault?, c.entry.fault?, c.commit.fault?,
                c.push.fault?].findSome? id with
              | some fault => .error (.config fault)
              | none => .ok c) := by
  have hread : Config.ofText text = ofTable pairs := by
    rw [Config.ofText, htext]
  constructor
  · intro hfits
    cases hc : ofTable pairs with
    | error m => exact ⟨m, by rw [Config.parse, hread, hc]⟩
    | ok c => exact absurd ((exists_ofTable_iff htables).1 ⟨c, hc⟩) hfits
  · intro hfits
    obtain ⟨c, hc⟩ := (exists_ofTable_iff htables).2 hfits
    have hconfigured : IsConfigured pairs c :=
      IsRead.isConfigured ⟨Toml.isDistinct_of_ofText? htext, htables, hc⟩
    -- any other configuration with those values is this one
    refine ⟨⟨c, hconfigured⟩, fun c' hc' => ?_⟩
    obtain rfl := hconfigured.unique hc'
    have hchecks := fault?_eq c
    cases hfault : c.fault? with
    | none =>
      rw [← hchecks, hfault]
      simp only [Config.parse, hread, hc, hfault]
    | some fault =>
      rw [← hchecks, hfault]
      simp only [Config.parse, hread, hc, hfault]

def partialPairs : List (String × Toml) :=
  [("push", .table [("remote", .string "fork")]),
    ("extraction", .table [("rule", .string "fields")])]

theorem fits_partialPairs : Fits declared partialPairs := by
  have hremote : Fits pushKinds [("remote", .string "fork")] :=
    List.forall_mem_singleton.2 ⟨_, rfl, "fork", rfl⟩
  have hrule : Fits extractionKinds [("rule", .string "fields")] :=
    List.forall_mem_singleton.2 ⟨_, rfl, .fields, .name⟩
  simp only [Fits, partialPairs, List.forall_mem_cons]
  exact ⟨⟨_, rfl, .mk hremote⟩, ⟨_, rfl, .mk hrule⟩, nofun⟩

theorem isConfigured_partialPairs : IsConfigured partialPairs
    { extraction := { rule := .fields }, push := { remote := "fork" } } :=
  ⟨.missing, .given .name, .missing, .missing, .missing, .missing, .missing, .missing, .given rfl,
    .missing, .missing⟩

theorem parse_sections_partial :
    Config.parse "push.remote = \"fork\"\n[extraction]\nrule = \"fields\"\n" =
        .ok { extraction := { rule := .fields }, push := { remote := "fork" } } ∧
      ∃ m, Config.parse "[changelog]\nfile = \"notes.md\"\n" = .error (.configMisread m) := by
  constructor
  · have htext : Toml.ofText? "push.remote = \"fork\"\n[extraction]\nrule = \"fields\"\n".toList =
        some partialPairs := by cbv
    have htables : ∀ e ∈ partialPairs, ∃ items, e.2 = .table items := by simp [partialPairs]
    rw [((parse_sections htext htables).2 fits_partialPairs).2 _ isConfigured_partialPairs]
    rfl
  · have htext : Toml.ofText? "[changelog]\nfile = \"notes.md\"\n".toList =
        some [("changelog", .table [("file", .string "notes.md")])] := by cbv
    refine (parse_sections htext (List.forall_mem_singleton.2 ⟨_, rfl⟩)).1 fun h => ?_
    obtain ⟨_, ⟨⟩, ⟨hkeys⟩⟩ := List.forall_mem_singleton.1 h
    obtain ⟨_, hkey, -⟩ := List.forall_mem_singleton.1 hkeys
    cases hkey

end MergeNotes.Config
