import Mathlib.Data.List.TakeWhile
import Mathlib.Data.Set.Insert
import MergeNotes.Disk
import MergeNotes.Proofs.Keyed
import MergeNotes.Proofs.Path

namespace MergeNotes

instance lawfulBEq_byteArray : LawfulBEq ByteArray where
  rfl {b} := beq_self_eq_true b.data
  eq_of_beq {a b} h := by
    cases a
    cases b
    exact congrArg ByteArray.mk (eq_of_beq (show (_ : Array UInt8) == _ from h))

namespace Disk

variable {d d' d'' : Disk} {s t : Set Location} {l l' : Location} {p : Path} {c : ByteArray}

def fileAt? (d : Disk) (l : Location) : Option ByteArray :=
  match d.node? l with
  | some (.file content) => some content
  | _ => none

theorem fileAt?_eq_some : d.fileAt? l = some c ↔ d.node? l = some (.file c) := by
  unfold fileAt?
  split <;> simp_all

theorem contentAt_eq (d : Disk) (l : Location) : d.contentAt l = (d.fileAt? l).getD .empty := by
  unfold contentAt fileAt?
  cases d.node? l with
  | none => rfl
  | some n => cases n <;> rfl

def follow (l : Location) (s : Path.Segment) : Location :=
  if Path.isFiller s then l else if s = ['.', '.'] then l.dropLast else l ++ [s]

/-- Where a path leads, if it leads anywhere. -/
def locate (d : Disk) (p : Path) : Location :=
  p.segments.foldl follow (if p.isAbsolute then [] else d.here)

theorem foldl_follow_filter (gs : List Path.Segment) (l : Location) :
    (gs.filter (!Path.isFiller ·)).foldl follow l = gs.foldl follow l := by
  induction gs generalizing l with
  | nil => rfl
  | cons g gs ih => by_cases hg : Path.isFiller g <;> simp [hg, ih, follow]

theorem locate_congr (d : Disk) {p q : Path} (h : p.components = q.components) :
    d.locate p = d.locate q := by
  have hnames : p.segments.filter (!Path.isFiller ·) = q.segments.filter (!Path.isFiller ·) := by
    apply List.map_injective_iff.2 Path.ofSegment_injective
    rw [← Path.filter_components, h, Path.filter_components]
  have habs : p.isAbsolute = q.isAbsolute := by
    rw [Bool.eq_iff_iff, Path.isAbsolute_iff, Path.isAbsolute_iff, h]
  rw [locate, ← foldl_follow_filter, hnames, habs, foldl_follow_filter, locate]

theorem enter_eq_ok {g : Path.Segment} (h : d.enter l g = .ok l') :
    d.node? l = some .directory ∧ l' = follow l g := by
  unfold enter at h
  unfold follow
  split at h
  · cases h
  · cases h
  · rename_i hd
    refine ⟨hd, ?_⟩
    split_ifs at h ⊢ <;> cases h <;> rfl

theorem walk_eq_ok {gs : List Path.Segment} (h : d.walk l gs = .ok l') :
    l' = gs.foldl follow l := by
  induction gs generalizing l with
  | nil => cases h; rfl
  | cons g gs ih =>
    rw [walk, List.foldlM_cons, bind_eq_ok] at h
    obtain ⟨m, hm, h⟩ := h
    rw [ih h, (enter_eq_ok hm).2]
    rfl

theorem enter_mono {g : Path.Segment}
    (hd : ∀ k, d.node? k = some .directory → d'.node? k = some .directory)
    (h : d.enter l g = .ok l') : d'.enter l g = .ok l' := by
  have hl := (enter_eq_ok h).1
  unfold enter at h ⊢
  rw [hd l hl]
  rwa [hl] at h

theorem walk_mono {gs : List Path.Segment}
    (hd : ∀ k, d.node? k = some .directory → d'.node? k = some .directory)
    (h : d.walk l gs = .ok l') : d'.walk l gs = .ok l' := by
  induction gs generalizing l with
  | nil => exact h
  | cons g gs ih =>
    rw [walk, List.foldlM_cons, bind_eq_ok] at h ⊢
    obtain ⟨m, hm, h⟩ := h
    exact ⟨m, enter_mono hd hm, ih h⟩

theorem origin_eq_ok (h : d.origin p = .ok l) : l = if p.isAbsolute then [] else d.here := by
  unfold origin at h
  split_ifs at h ⊢ <;> cases h <;> rfl

theorem resolve_eq_ok (h : d.resolve p = .ok l) : l = d.locate p := by
  obtain ⟨o, ho, h⟩ := bind_eq_ok.1 h
  rw [walk_eq_ok h, origin_eq_ok ho]
  rfl

theorem resolve_mono (hhere : d'.here = d.here)
    (hd : ∀ k, d.node? k = some .directory → d'.node? k = some .directory)
    (h : d.resolve p = .ok l) : d'.resolve p = .ok l := by
  obtain ⟨o, ho, h⟩ := bind_eq_ok.1 h
  refine bind_eq_ok.2 ⟨o, ?_, walk_mono hd h⟩
  rwa [origin, hhere]

theorem read_eq_ok :
    d.read p = .ok c ↔ d.resolve p = .ok (d.locate p) ∧ d.fileAt? (d.locate p) = some c := by
  rw [read, bind_eq_ok]
  constructor
  · rintro ⟨l, hl, h⟩
    obtain rfl := resolve_eq_ok hl
    refine ⟨hl, fileAt?_eq_some.2 ?_⟩
    split at h <;> simp_all
  · rintro ⟨hl, h⟩
    refine ⟨_, hl, ?_⟩
    rw [fileAt?_eq_some.1 h]

/-- What a disk is later on: nothing on it is gone, and only files at the locations of `s` are new
or hold something else. -/
structure Evolves (s : Set Location) (d d' : Disk) : Prop where
  here : d'.here = d.here
  directory : ∀ l, d.node? l = some .directory → d'.node? l = some .directory
  remains : ∀ l, (d.fileAt? l).isSome → (d'.fileAt? l).isSome
  file : ∀ l, l ∉ s → d'.fileAt? l = d.fileAt? l

namespace Evolves

theorem refl (s : Set Location) (d : Disk) : Evolves s d d :=
  ⟨rfl, fun _ h => h, fun _ h => h, fun _ _ => rfl⟩

theorem trans (h : Evolves s d d') (h' : Evolves s d' d'') : Evolves s d d'' where
  here := h'.here.trans h.here
  directory l hl := h'.directory l (h.directory l hl)
  remains l hl := h'.remains l (h.remains l hl)
  file l hl := (h'.file l hl).trans (h.file l hl)

theorem mono (h : Evolves s d d') (hst : s ⊆ t) : Evolves t d d' :=
  ⟨h.here, h.directory, h.remains, fun l hl => h.file l (fun hs => hl (hst hs))⟩

theorem locate (h : Evolves s d d') (p : Path) : d'.locate p = d.locate p := by
  rw [Disk.locate, h.here, Disk.locate]

theorem resolve (h : Evolves s d d') (hl : d.resolve p = .ok l) : d'.resolve p = .ok l :=
  resolve_mono h.here h.directory hl

theorem read (h : Evolves s d d') (hp : d.locate p ∉ s) (hc : d.read p = .ok c) :
    d'.read p = .ok c := by
  obtain ⟨hl, hf⟩ := read_eq_ok.1 hc
  rw [read_eq_ok, h.locate, h.file _ hp]
  exact ⟨h.resolve hl, hf⟩

theorem exists_read (h : Evolves s d d') (hc : d.read p = .ok c) : ∃ c', d'.read p = .ok c' := by
  obtain ⟨hl, hf⟩ := read_eq_ok.1 hc
  obtain ⟨c', hc'⟩ := Option.isSome_iff_exists.1 (h.remains (d.locate p) (by rw [hf]; rfl))
  refine ⟨c', read_eq_ok.2 ?_⟩
  rw [h.locate]
  exact ⟨h.resolve hl, hc'⟩

end Evolves

theorem node?_put {n : Node} (hl : l ≠ []) : (d.put l n).node? l = some n := by
  simp [node?, put, hl]

theorem node?_put_of_ne {n : Node} (h : l' ≠ l) : (d.put l n).node? l' = d.node? l' := by
  unfold node? put
  split
  · rfl
  · rw [List.lookup_cons, beq_false_of_ne h]
    exact lookup_filter (p := fun k => decide (k ≠ l)) d.nodes (by simpa using h)

theorem directory_put {n : Node} {k : Location}
    (hn : d.node? l = some .directory → n = .directory) (hk : d.node? k = some .directory) :
    (d.put l n).node? k = some .directory := by
  by_cases hkl : k = l
  · subst hkl
    by_cases hnil : k = []
    · rw [hnil]
      rfl
    · rw [node?_put hnil, hn hk]
  · rwa [node?_put_of_ne hkl]

theorem node?_erase (hl : l ≠ []) : (d.erase l).node? l = none := by
  rw [node?, if_neg hl, erase, lookup_eq_none_iff]
  simp

theorem node?_erase_of_ne (h : l' ≠ l) : (d.erase l).node? l' = d.node? l' := by
  unfold node? erase
  split
  · rfl
  · exact lookup_filter (p := fun k => decide (k ≠ l)) d.nodes (by simpa using h)

theorem directory_erase {k : Location} (hl : d.node? l ≠ some .directory)
    (hk : d.node? k = some .directory) : (d.erase l).node? k = some .directory := by
  rwa [node?_erase_of_ne]
  rintro rfl
  exact hl hk

theorem fileAt?_put_file (hl : l ≠ []) : (d.put l (.file c)).fileAt? l = some c :=
  fileAt?_eq_some.2 (node?_put hl)

theorem fileAt?_put_of_ne {n : Node} (h : l' ≠ l) : (d.put l n).fileAt? l' = d.fileAt? l' := by
  rw [fileAt?, node?_put_of_ne h, fileAt?]

theorem evolves_put_file (hl : l ≠ []) (hd : d.node? l ≠ some .directory) :
    Evolves {l} d (d.put l (.file c)) where
  here := rfl
  directory k hk := directory_put (fun h => absurd h hd) hk
  remains k hk := by
    by_cases hkl : k = l
    · rw [hkl, fileAt?_put_file hl]
      rfl
    · rwa [fileAt?_put_of_ne hkl]
  file k hk := fileAt?_put_of_ne hk

theorem evolves_put_directory (hl : l ≠ []) (hd : d.node? l = none) :
    Evolves ∅ d (d.put l .directory) := by
  have hfile : ∀ k, (d.put l .directory).fileAt? k = d.fileAt? k := by
    intro k
    by_cases hkl : k = l
    · rw [hkl, fileAt?, node?_put hl, fileAt?, hd]
    · exact fileAt?_put_of_ne hkl
  exact ⟨rfl, fun k => directory_put fun _ => rfl, fun k hk => by rwa [hfile], fun k _ => hfile k⟩

theorem exists_pieces_eq_concat {sep : Char → Bool} {cs : List Char} {c : Char}
    (h : cs.getLast? = some c) (hc : sep c = false) :
    ∃ ws w, Chars.pieces sep cs = ws ++ [w] ∧ w ≠ [] := by
  induction cs with
  | nil => simp at h
  | cons a as ih =>
    by_cases has : as = []
    · subst has
      obtain rfl : a = c := by simpa using h
      exact ⟨[], [a], by simp [Chars.pieces, hc], by simp⟩
    · rw [List.getLast?_cons_of_ne_nil has] at h
      obtain ⟨ws, w, hw, hne⟩ := ih h
      -- a character before the others makes the first piece longer, and the last one stays
      simp only [Chars.pieces, hw]
      split
      · exact ⟨[] :: ws, w, rfl, hne⟩
      · cases ws with
        | nil => exact ⟨[], a :: w, rfl, by simp⟩
        | cons v vs => exact ⟨(a :: v) :: vs, w, rfl, hne⟩

theorem exists_segments_eq_concat (hp : p.text ≠ "")
    (hs : p.text.toList.getLast? ≠ some '/') :
    ∃ gs g, p.segments = gs ++ [g] ∧ g ≠ [] := by
  cases hc : p.text.toList.getLast? with
  | none =>
    rw [List.getLast?_eq_none_iff] at hc
    exact absurd (String.toList_injective hc) hp
  | some c =>
    apply exists_pieces_eq_concat hc
    rw [beq_eq_false_iff_ne]
    rintro rfl
    exact hs hc

theorem text_ne_of_origin (h : d.origin p = .ok l) : p.text ≠ "" := by
  intro hp
  simp [origin, hp] at h

theorem place_eq_ok {parent : Location} (h : d.place p = .ok (parent, some l)) :
    ∃ o g gs, d.origin p = .ok o ∧ p.segments.reverse.dropWhile (·.isEmpty) = g :: gs ∧
      d.walk o gs.reverse = .ok parent ∧ d.enter parent g = .ok l ∧ l = parent ++ [g] := by
  obtain ⟨o, ho, h⟩ := bind_eq_ok.1 h
  cases hgs : p.segments.reverse.dropWhile (·.isEmpty) with
  | nil => rw [hgs] at h; cases h
  | cons g gs =>
    rw [hgs] at h
    obtain ⟨parent', hwalk, h⟩ := bind_eq_ok.1 h
    obtain ⟨l', henter, h⟩ := bind_eq_ok.1 h
    split_ifs at h with hname
    · cases h
    cases h
    refine ⟨o, g, gs, ho, rfl, hwalk, henter, ?_⟩
    rw [(enter_eq_ok henter).2]
    simp_all [follow]

theorem locate_of_place {parent : Location} (h : d.place p = .ok (parent, some l)) :
    l = d.locate p := by
  obtain ⟨o, g, gs, ho, hlast, hwalk, henter, -⟩ := place_eq_ok h
  -- the separators at the end lead nowhere else
  let es := p.segments.reverse.takeWhile (·.isEmpty)
  have hsegments : p.segments = (g :: gs).reverse ++ es.reverse := by
    rw [← List.reverse_append, ← hlast, List.takeWhile_append_dropWhile, List.reverse_reverse]
  have hes : es.reverse.filter (!Path.isFiller ·) = [] := by
    rw [List.filter_eq_nil_iff]
    intro f hf
    have hempty : f.isEmpty = true := List.mem_takeWhile_imp (List.mem_reverse.1 hf)
    rw [List.isEmpty_iff.1 hempty]
    decide
  rw [(enter_eq_ok henter).2, walk_eq_ok hwalk, origin_eq_ok ho, locate, hsegments,
    List.foldl_append, ← foldl_follow_filter es.reverse, hes, List.reverse_cons,
    List.foldl_append]
  rfl

theorem exists_place_of_fileTarget (h : d.fileTarget p = .ok l) :
    ∃ parent, d.place p = .ok (parent, some l) ∧ p.text.toList.getLast? ≠ some '/' ∧
      d.node? l ≠ some .directory := by
  obtain ⟨⟨parent, target⟩, hplace, h⟩ := bind_eq_ok.1 h
  cases target with
  | none => cases h
  | some m =>
    dsimp only at h
    split_ifs at h with hs
    split at h
    · cases h
    · cases h
      exact ⟨parent, hplace, hs, by assumption⟩

theorem exists_place_of_makeDirectory (h : d.makeDirectory p = .ok d') :
    ∃ parent l, d.place p = .ok (parent, some l) ∧ d.node? l = none ∧
      d' = d.put l .directory := by
  obtain ⟨⟨parent, target⟩, hplace, h⟩ := bind_eq_ok.1 h
  cases target with
  | none => cases h
  | some l =>
    dsimp only at h
    split_ifs at h with hl
    cases h
    exact ⟨parent, l, hplace, by simpa using hl, rfl⟩

theorem fileTarget_eq_ok (h : d.fileTarget p = .ok l) :
    d.resolve p = .ok l ∧ l ≠ [] ∧ d.node? l ≠ some .directory := by
  obtain ⟨parent, hplace, hs, hd⟩ := exists_place_of_fileTarget h
  obtain ⟨o, g, rest, ho, hrest, hwalk, henter, hl⟩ := place_eq_ok hplace
  obtain ⟨gs, g', hgs, hg'⟩ := exists_segments_eq_concat (text_ne_of_origin ho) hs
  -- the last segment is not empty, so nothing is dropped
  obtain ⟨rfl, rfl⟩ : g' = g ∧ gs.reverse = rest := by
    simpa [hgs, hg'] using hrest
  refine ⟨bind_eq_ok.2 ⟨o, ho, ?_⟩, by simp [hl], hd⟩
  rw [hgs, walk, List.foldlM_append, bind_eq_ok]
  rw [List.reverse_reverse] at hwalk
  exact ⟨parent, hwalk, by simpa using henter⟩

theorem write_eq_ok (h : d.write p c = .ok d') :
    Evolves {d.locate p} d d' ∧ d'.read p = .ok c := by
  obtain ⟨l, hl, h⟩ := bind_eq_ok.1 h
  cases h
  obtain ⟨hr, hne, hd⟩ := fileTarget_eq_ok hl
  obtain rfl := resolve_eq_ok hr
  have hev : Evolves {d.locate p} d (d.put (d.locate p) (.file c)) := evolves_put_file hne hd
  refine ⟨hev, read_eq_ok.2 ?_⟩
  rw [hev.locate]
  exact ⟨hev.resolve hr, fileAt?_put_file hne⟩

theorem append_eq_ok (h : d.append p c = .ok d') :
    Evolves {d.locate p} d d' ∧
      d'.read p = .ok ((d.fileAt? (d.locate p)).getD .empty ++ c) := by
  obtain ⟨l, hl, h⟩ := bind_eq_ok.1 h
  cases h
  obtain rfl := resolve_eq_ok (fileTarget_eq_ok hl).1
  rw [← contentAt_eq]
  apply write_eq_ok
  rw [write, hl]
  rfl

theorem makeDirectory_eq_ok (h : d.makeDirectory p = .ok d') : Evolves ∅ d d' := by
  obtain ⟨parent, l, hplace, hnone, rfl⟩ := exists_place_of_makeDirectory h
  obtain ⟨o, g, gs, -, -, -, -, hl⟩ := place_eq_ok hplace
  exact evolves_put_directory (by simp [hl]) hnone

theorem ensureDirectory_eq_ok (h : d.ensureDirectory p = .ok d') : Evolves ∅ d d' := by
  unfold ensureDirectory at h
  split at h
  · cases h
    exact makeDirectory_eq_ok (by assumption)
  · split_ifs at h
    cases h
    exact .refl ∅ d

/-- Making directories touches no file, however far it comes. -/
theorem evolves_makeDirectories (d : Disk) (n : Nat) (p : Path) :
    Evolves ∅ d (d.makeDirectories n p).2 := by
  induction n generalizing p with
  | zero => exact .refl ∅ d
  | succ n ih =>
    unfold makeDirectories
    split
    · exact .refl ∅ d
    split
    · exact ensureDirectory_eq_ok (by assumption)
    · rename_i parent _ _
      have hparent := ih parent
      split
      · rename_i hm
        rwa [hm] at hparent
      · rename_i hm
        rw [hm] at hparent
        split
        · exact hparent.trans (ensureDirectory_eq_ok (by assumption))
        · exact hparent
    · exact .refl ∅ d

theorem evolves_makeParents (d : Disk) (p : Path) : Evolves ∅ d (d.makeParents p).2 := by
  unfold makeParents
  split
  · exact .refl ∅ d
  · exact d.evolves_makeDirectories _ _

end Disk
end MergeNotes
