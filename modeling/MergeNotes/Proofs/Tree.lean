import Mathlib.Data.List.Nodup
import MergeNotes.Proofs.Writable

namespace MergeNotes.Disk

variable {d d' : Disk} {l l' : Location} {s : Path.Segment} {gs : List Path.Segment} {p : Path}
  {n : Node} {c : ByteArray}

structure IsName (s : Path.Segment) : Prop where
  filler : Path.isFiller s = false
  up : s ≠ ['.', '.']
  slash : ∀ c ∈ s, (c == '/') = false
  size : bytesOf s ≤ maxNameBytes

instance (s : Path.Segment) : Decidable (IsName s) :=
  decidable_of_iff (Path.isFiller s = false ∧ s ≠ ['.', '.'] ∧ s.all (· != '/') = true ∧
      bytesOf s ≤ maxNameBytes)
    ⟨fun ⟨hfiller, hup, hslash, hsize⟩ => ⟨hfiller, hup, by simpa using hslash, hsize⟩,
      fun ⟨hfiller, hup, hslash, hsize⟩ => ⟨hfiller, hup, by simpa using hslash, hsize⟩⟩

structure IsTree (d : Disk) : Prop where
  nodup : (d.nodes.map Prod.fst).Nodup
  hangs : ∀ x ∈ d.nodes, ∃ l s, x.1 = l ++ [s] ∧ IsName s ∧ d.node? l = some .directory

namespace IsTree

theorem node?_of_mem (h : d.IsTree) (hl : (l, n) ∈ d.nodes) : d.node? l = some n := by
  obtain ⟨k, s, rfl, -⟩ := h.hangs _ hl
  rw [node?, if_neg (by simp)]
  exact (lookup_eq_some_iff h.nodup).2 hl

theorem mem_of_node? (h : d.IsTree) (hl : d.node? l = some n) (hne : l ≠ []) :
    (l, n) ∈ d.nodes := by
  rw [node?, if_neg hne] at hl
  exact (lookup_eq_some_iff h.nodup).1 hl

theorem above (h : d.IsTree) (hl : (d.node? (l ++ [s])).isSome) :
    IsName s ∧ d.node? l = some .directory := by
  rw [node?, if_neg (by simp), isSome_lookup_iff] at hl
  obtain ⟨x, hx, hxl⟩ := List.mem_map.1 hl
  obtain ⟨k, t, hk, ht, hdir⟩ := h.hangs x hx
  obtain ⟨rfl, rfl⟩ : k = l ∧ t = s := by simpa [hk] using hxl
  exact ⟨ht, hdir⟩

theorem above_append (h : d.IsTree) (hl : (d.node? (l ++ s :: gs)).isSome) :
    IsName s ∧ d.node? l = some .directory := by
  induction gs using List.reverseRecOn with
  | nil => exact h.above hl
  | append_singleton gs t ih =>
    have hparent : d.node? (l ++ s :: gs) = some .directory := by
      rw [← List.cons_append, ← List.append_assoc] at hl
      exact (h.above hl).2
    exact ih (by rw [hparent]; rfl)

theorem isName (h : d.IsTree) (hl : (d.node? (l ++ gs)).isSome) : ∀ s ∈ gs, IsName s := by
  intro s hs
  obtain ⟨as, bs, rfl⟩ := List.append_of_mem hs
  rw [← List.append_assoc] at hl
  exact (h.above_append hl).1

theorem walk (h : d.IsTree) (hl : (d.node? (l ++ gs)).isSome) : d.walk l gs = .ok (l ++ gs) := by
  induction gs generalizing l with
  | nil => rw [List.append_nil]; rfl
  | cons g gs ih =>
    obtain ⟨hg, hdir⟩ := h.above_append hl
    have henter : d.enter l g = .ok (l ++ [g]) := by
      rw [enter, hdir]
      simp [hg.filler, hg.up, hg.size]
    rw [List.append_cons] at hl ⊢
    rw [Disk.walk, List.foldlM_cons, bind_eq_ok]
    exact ⟨_, henter, ih hl⟩

theorem put (h : d.IsTree) (hs : IsName s) (hl : d.node? l = some .directory)
    (hn : d.node? (l ++ [s]) = some .directory → n = .directory) : (d.put (l ++ [s]) n).IsTree where
  nodup := by
    rw [Disk.put, List.map_cons, List.nodup_cons]
    refine ⟨by simp, ?_⟩
    exact h.nodup.sublist (List.filter_sublist.map _)
  hangs x hx := by
    rcases List.mem_cons.1 hx with rfl | hx
    · exact ⟨l, s, rfl, hs, directory_put hn hl⟩
    · obtain ⟨k, t, hk, ht, hdir⟩ := h.hangs x (List.mem_of_mem_filter hx)
      exact ⟨k, t, hk, ht, directory_put hn hdir⟩

theorem erase (h : d.IsTree) (hl : d.node? l ≠ some .directory) : (d.erase l).IsTree where
  nodup := h.nodup.sublist (List.filter_sublist.map _)
  hangs x hx := by
    obtain ⟨k, t, hk, ht, hdir⟩ := h.hangs x (List.mem_of_mem_filter hx)
    exact ⟨k, t, hk, ht, directory_erase hl hdir⟩

end IsTree

theorem isName_of_enter (h : d.enter l s = .ok (l ++ [s])) (hs : ∀ c ∈ s, (c == '/') = false) :
    IsName s ∧ d.node? l = some .directory := by
  obtain ⟨hdir, hl⟩ := enter_eq_ok h
  unfold enter at h
  rw [hdir] at h
  dsimp only at h
  split_ifs at h with hfiller hup hsize
  · simp at h
  · have hlength := congrArg List.length (Except.ok.inj h)
    rw [List.length_dropLast, List.length_append, List.length_singleton] at hlength
    omega
  · exact ⟨⟨by simpa using hfiller, hup, hs, Nat.le_of_not_lt hsize⟩, hdir⟩

theorem exists_isName_of_place {parent : Location} (h : d.place p = .ok (parent, some l)) :
    ∃ g, l = parent ++ [g] ∧ IsName g ∧ d.node? parent = some .directory ∧ l = d.locate p := by
  have hlocate := locate_of_place h
  obtain ⟨o, g, gs, -, hgs, -, henter, rfl⟩ := place_eq_ok h
  have hg : g ∈ p.segments.reverse :=
    (List.dropWhile_suffix _).subset (hgs ▸ List.mem_cons_self)
  obtain ⟨hname, hdir⟩ := isName_of_enter henter fun c hc =>
    Chars.mem_pieces (List.mem_reverse.1 hg) c hc
  exact ⟨g, rfl, hname, hdir, hlocate⟩

theorem write_eq_put (h : d.write p c = .ok d') :
    ∃ l g, d.locate p = l ++ [g] ∧ IsName g ∧ d.node? l = some .directory ∧
      d.node? (l ++ [g]) ≠ some .directory ∧ d' = d.put (l ++ [g]) (.file c) := by
  obtain ⟨t, ht, h⟩ := bind_eq_ok.1 h
  cases h
  obtain ⟨parent, hplace, -, hdir⟩ := exists_place_of_fileTarget ht
  obtain ⟨g, rfl, hg, hparent, hl⟩ := exists_isName_of_place hplace
  exact ⟨parent, g, hl.symm, hg, hparent, hdir, rfl⟩

theorem makeDirectory_eq_put (h : d.makeDirectory p = .ok d') :
    ∃ l g, d.locate p = l ++ [g] ∧ IsName g ∧ d.node? l = some .directory ∧
      d.node? (l ++ [g]) = none ∧ d' = d.put (l ++ [g]) .directory := by
  obtain ⟨parent, l, hplace, hnone, rfl⟩ := exists_place_of_makeDirectory h
  obtain ⟨g, rfl, hg, hparent, hl⟩ := exists_isName_of_place hplace
  exact ⟨parent, g, hl.symm, hg, hparent, hnone, rfl⟩

end MergeNotes.Disk
