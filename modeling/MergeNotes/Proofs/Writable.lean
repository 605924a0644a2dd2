import MergeNotes.Proofs.Document
import MergeNotes.Proofs.Names

namespace MergeNotes

theorem Chars.intercalate_pieces (c : Char) (cs : List Char) :
    [c].intercalate (pieces (· == c) cs) = cs := by
  induction cs with
  | nil => rfl
  | cons d cs ih =>
    obtain ⟨w, ws, hw⟩ := List.exists_cons_of_ne_nil (pieces_ne_nil cs)
    rw [hw] at ih
    simp only [pieces, hw]
    split_ifs with hd
    · rw [List.intercalate_cons_cons, ih, eq_of_beq hd]
      rfl
    · cases ws with
      | nil => simpa using ih
      | cons v vs =>
        rw [List.intercalate_cons_cons] at ih ⊢
        rw [← ih]
        rfl

theorem Chars.isPrefix_intercalate (sep : List Char) {ws vs : List (List Char)} (h : ws <+: vs) :
    sep.intercalate ws <+: sep.intercalate vs := by
  induction ws generalizing vs with
  | nil => exact List.nil_prefix
  | cons w ws ih =>
    obtain ⟨us, rfl⟩ := h
    cases ws with
    | nil =>
      cases us with
      | nil => exact List.prefix_rfl
      | cons u us => simp [List.intercalate_cons_cons]
    | cons v ws =>
      have hrest := ih (List.prefix_append (v :: ws) us)
      simp only [List.cons_append, List.intercalate_cons_cons] at hrest ⊢
      exact (List.prefix_append_right_inj _).2 hrest

namespace Path

variable {p q : Path} {gs : List Segment} {g : Segment}

theorem isPrefix_text_ofSegments (h : gs <+: p.segments) :
    (ofSegments gs).text.toList <+: p.text.toList := by
  have hp := Chars.isPrefix_intercalate ['/'] h
  rw [segments, Chars.intercalate_pieces] at hp
  rwa [ofSegments, String.toList_ofList]

theorem getLast?_text_ne (h : p.segments = gs ++ [g]) (hg : g ≠ []) :
    p.text.toList.getLast? ≠ some '/' := by
  intro hlast
  obtain ⟨cs, hcs⟩ := List.getLast?_eq_some_iff.1 hlast
  rw [segments, hcs, Chars.pieces_append (by simp)] at h
  exact hg (List.cons.inj (List.append_inj' h rfl).2).1.symm

/-- All that is dropped from the end is fillers. -/
theorem exists_append_dropLastFillers (gs : List Segment) :
    ∃ fs, gs = dropLastFillers gs ++ fs ∧ ∀ f ∈ fs, isFiller f = true := by
  refine ⟨(gs.reverse.takeWhile isFiller).reverse, ?_, ?_⟩
  · rw [dropLastFillers, ← List.reverse_append, List.takeWhile_append_dropWhile,
      List.reverse_reverse]
  · intro f hf
    exact List.mem_takeWhile_imp (List.mem_reverse.1 hf)

theorem body_cases (h : p.segments = gs ++ [g]) (hg : isFiller g = false) :
    (p.start? = some .root ∧ ∃ bs, gs = [] :: bs ∧ p.body = bs ++ [g]) ∨
      (p.start? = some .here ∧ ∃ bs, gs = ['.'] :: bs ∧ p.body = bs ++ [g]) ∨
      p.start? = none ∧ p.body = gs ++ [g] := by
  -- what a path starts with is a filler, so it is not the last segment
  have hfirst : ∀ s, p.segments.head? = some s → isFiller s = true → ∃ bs, gs = s :: bs := by
    intro s hs hfiller
    cases gs with
    | nil =>
      rw [h] at hs
      cases hs
      rw [hg] at hfiller
      cases hfiller
    | cons t bs =>
      rw [h] at hs
      cases hs
      exact ⟨bs, rfl⟩
  by_cases habs : p.isAbsolute = true
  · have hstart : p.start? = some .root := by simp [start?, habs]
    obtain ⟨ss, hss⟩ := exists_segments_eq_cons_of_isAbsolute habs
    obtain ⟨bs, rfl⟩ := hfirst [] (by rw [hss]; rfl) rfl
    exact .inl ⟨hstart, bs, rfl, by simp [body, hstart, h]⟩
  by_cases hhere : p.segments.head? = some ['.']
  · have hstart : p.start? = some .here := by simp [start?, habs, hhere]
    obtain ⟨bs, rfl⟩ := hfirst ['.'] hhere rfl
    exact .inr (.inl ⟨hstart, bs, rfl, by simp [body, hstart, h]⟩)
  · have hstart : p.start? = none := by simp [start?, habs, hhere]
    exact .inr (.inr ⟨hstart, by simp [body, hstart, h]⟩)

theorem parent?_eq_some (hbody : p.body = gs ++ [g]) (hg : isFiller g = false) :
    p.parent? = some (ofBody p.start? (dropLastFillers gs)) := by
  have hlast : (dropLastFillers p.body).reverse = g :: gs.reverse := by
    simp [dropLastFillers, hbody, hg]
  rw [parent?, hlast]
  simp

/-- A path that another one starts with, and that has its segments up to some place, but for
fillers. -/
structure IsAbove (q p : Path) (gs : List Segment) : Prop where
  text : q.text.toList <+: p.text.toList
  segments : ∃ hs fs fs', gs = hs ++ fs ∧ q.segments = hs ++ fs' ∧
    (∀ f ∈ fs, isFiller f = true) ∧ ∀ f ∈ fs', isFiller f = true

theorem isAbove_ofSegments (h : p.segments = gs ++ [g]) {hs fs : List Segment} (hne : hs ≠ [])
    (hgs : gs = hs ++ fs) (hfs : ∀ f ∈ fs, isFiller f = true) :
    (ofSegments hs).IsAbove p gs := by
  have hfree : SlashFree hs := fun s hmem => Chars.mem_pieces
    (show s ∈ p.segments by simp [h, hgs, hmem])
  refine ⟨isPrefix_text_ofSegments ?_, hs, fs, [], hgs, ?_, hfs, nofun⟩
  · rw [h, hgs, List.append_assoc]
    exact List.prefix_append _ _
  · rw [segments_ofSegments hne hfree, List.append_nil]

theorem isAbove_root (h : p.segments = [] :: gs ++ [g]) (hgs : ∀ f ∈ gs, isFiller f = true) :
    IsAbove ⟨"/"⟩ p ([] :: gs) := by
  refine ⟨?_, [[]], gs, [[]], rfl, rfl, hgs, by simp [isFiller]⟩
  have htext : p.text.toList = ['/'].intercalate ([] :: gs ++ [g]) := by
    rw [← h, segments, Chars.intercalate_pieces]
  rw [htext]
  cases gs <;> simp [List.intercalate_cons_cons]

theorem isAbove_parent? (h : p.segments = gs ++ [g]) (hg : isFiller g = false)
    (hq : p.parent? = some q) (hne : q.text ≠ "") : q.IsAbove p gs := by
  obtain ⟨hstart, bs, rfl, hbody⟩ | ⟨hstart, bs, rfl, hbody⟩ | ⟨hstart, hbody⟩ :=
    body_cases h hg
  all_goals rw [parent?_eq_some hbody hg, Option.some.injEq, hstart] at hq
  · obtain ⟨fs, hbs, hfs⟩ := exists_append_dropLastFillers bs
    rw [ofBody] at hq
    split_ifs at hq with hnil
    · have hroot : dropLastFillers bs = [] := by simpa using hnil
      rw [hroot] at hbs
      exact hq ▸ isAbove_root h (hbs ▸ hfs)
    · exact hq ▸ isAbove_ofSegments h (List.cons_ne_nil _ _) (congrArg ([] :: ·) hbs) hfs
  · obtain ⟨fs, hbs, hfs⟩ := exists_append_dropLastFillers bs
    change ofSegments (['.'] :: dropLastFillers bs) = q at hq
    exact hq ▸ isAbove_ofSegments h (List.cons_ne_nil _ _) (congrArg (['.'] :: ·) hbs) hfs
  · obtain ⟨fs, hgs, hfs⟩ := exists_append_dropLastFillers gs
    change ofSegments (dropLastFillers gs) = q at hq
    refine hq ▸ isAbove_ofSegments h ?_ hgs hfs
    intro hnil
    rw [hnil] at hq
    exact hne (by rw [← hq]; rfl)

end Path

namespace Disk

variable {d d' : Disk} {s : Set Location} {l l' : Location} {p q : Path} {gs : List Path.Segment}
  {b : ByteArray}

/-- The current directory is there, and so is all that it lies in. -/
def IsRooted (d : Disk) : Prop := ∀ l, l <+: d.here → d.node? l = some .directory

def IsUpheld (d : Disk) (l : Location) : Prop :=
  ∀ k, k <+: l → k ≠ l → d.node? k = some .directory

theorem Evolves.isRooted (h : Evolves s d d') (hd : d.IsRooted) : d'.IsRooted := by
  intro l hl
  rw [h.here] at hl
  exact h.directory l (hd l hl)

theorem IsUpheld.enter {g : Path.Segment} (hl : d.IsUpheld l) (h : d.enter l g = .ok l') :
    d.IsUpheld l' := by
  obtain ⟨hdir, rfl⟩ := enter_eq_ok h
  unfold follow
  split_ifs
  · exact hl
  · intro k hk hne
    have hdrop := List.dropLast_prefix l
    refine hl k (hk.trans hdrop) ?_
    rintro rfl
    exact hne (hk.eq_of_length_le hdrop.length_le)
  · intro k hk hne
    rcases List.prefix_concat_iff.1 hk with rfl | hk
    · exact absurd rfl hne
    · by_cases hkl : k = l
      · rwa [hkl]
      · exact hl k hk hkl

theorem IsUpheld.walk (hl : d.IsUpheld l) (h : d.walk l gs = .ok l') : d.IsUpheld l' := by
  induction gs generalizing l with
  | nil =>
    cases h
    exact hl
  | cons g gs ih =>
    rw [Disk.walk, List.foldlM_cons, bind_eq_ok] at h
    obtain ⟨m, hm, h⟩ := h
    exact ih (hl.enter hm) h

theorem IsRooted.isUpheld (hd : d.IsRooted) (h : d.origin p = .ok l) : d.IsUpheld l := by
  rw [origin_eq_ok h]
  split_ifs
  · intro k hk hne
    exact absurd (List.prefix_nil.1 hk) hne
  · exact fun k hk _ => hd k hk

/-- The path of a file that can be read ends in its name, which is in a directory. -/
theorem exists_name_of_read (hd : d.IsRooted) (h : d.read p = .ok b) :
    ∃ gs g o parent, p.segments = gs ++ [g] ∧ Path.isFiller g = false ∧ g ≠ ['.', '.'] ∧
      d.origin p = .ok o ∧ d.walk o gs = .ok parent ∧ d.enter parent g = .ok (d.locate p) := by
  obtain ⟨hresolve, hfile⟩ := read_eq_ok.1 h
  have hnode := fileAt?_eq_some.1 hfile
  obtain ⟨o, ho, hwalk⟩ := bind_eq_ok.1 hresolve
  obtain ⟨gs, g, hgs⟩ :=
    (List.eq_nil_or_concat' p.segments).resolve_left (Chars.pieces_ne_nil _)
  rw [hgs, walk, List.foldlM_append, bind_eq_ok] at hwalk
  obtain ⟨parent, hparent, hlast⟩ := hwalk
  have henter : d.enter parent g = .ok (d.locate p) := by simpa using hlast
  obtain ⟨hdir, hl⟩ := enter_eq_ok henter
  -- a filler stays in a directory, and two dots lead to one
  refine ⟨gs, g, o, parent, hgs, ?_, ?_, ho, hparent, henter⟩
  · by_contra hfiller
    rw [hl, follow, if_pos (by simpa using hfiller), hdir] at hnode
    cases hnode
  · rintro rfl
    have hup : d.node? parent.dropLast = some .directory := by
      by_cases hnil : parent = []
      · rw [hnil]
        rfl
      · have hdrop := List.dropLast_prefix parent
        refine (hd.isUpheld ho).walk hparent _ hdrop fun heq => hnil ?_
        have hlength := congrArg List.length heq
        rw [List.length_dropLast] at hlength
        exact List.length_eq_zero_iff.1 (by omega)
    rw [hl, show follow parent ['.', '.'] = parent.dropLast from rfl, hup] at hnode
    cases hnode

theorem fileTarget_of_read (hd : d.IsRooted) (h : d.read p = .ok b) :
    d.fileTarget p = .ok (d.locate p) := by
  obtain ⟨gs, g, o, parent, hgs, hfiller, hup, ho, hparent, henter⟩ := exists_name_of_read hd h
  have hg : g ≠ [] := by
    rintro rfl
    cases hfiller
  have hplace : d.place p = .ok (parent, some (d.locate p)) := by
    have hlast : p.segments.reverse.dropWhile (·.isEmpty) = g :: gs.reverse := by
      simp [hgs, hg]
    simp [place, ho, hlast, hparent, henter, hfiller, hup, bind, Except.bind, pure, Except.pure]
  have hnode := fileAt?_eq_some.1 (read_eq_ok.1 h).2
  simp [fileTarget, hplace, Path.getLast?_text_ne hgs hg, hnode, bind, Except.bind]

theorem exists_write_of_read (hd : d.IsRooted) (h : d.read p = .ok b) (c : ByteArray) :
    ∃ d', d.write p c = .ok d' := by
  rw [write, fileTarget_of_read hd h]
  exact ⟨_, rfl⟩

theorem exists_append_of_read (hd : d.IsRooted) (h : d.read p = .ok b) (c : ByteArray) :
    ∃ d', d.append p c = .ok d' := by
  rw [append, fileTarget_of_read hd h]
  exact ⟨_, rfl⟩

theorem walk_fillers (hl : d.node? l = some .directory)
    (hgs : ∀ g ∈ gs, Path.isFiller g = true) : d.walk l gs = .ok l := by
  induction gs with
  | nil => rfl
  | cons g gs ih =>
    rw [List.forall_mem_cons] at hgs
    rw [walk, List.foldlM_cons, enter, hl]
    simp only [hgs.1, if_true]
    exact ih hgs.2

/-- Fillers at the end of the way to a directory do not matter. -/
theorem walk_of_append_fillers {hs fs fs' : List Path.Segment}
    (h : d.walk l (hs ++ fs) = .ok l') (hl' : d.node? l' = some .directory)
    (hfs : ∀ f ∈ fs, Path.isFiller f = true) (hfs' : ∀ f ∈ fs', Path.isFiller f = true) :
    d.walk l (hs ++ fs') = .ok l' := by
  rw [walk, List.foldlM_append, bind_eq_ok] at h ⊢
  obtain ⟨m, hm, h⟩ := h
  have hstay : fs.foldl follow m = m := by
    rw [← foldl_follow_filter, List.filter_eq_nil_iff.2 (by simpa using hfs)]
    rfl
  obtain rfl : l' = m := (walk_eq_ok h).trans hstay
  exact ⟨l', hm, walk_fillers hl' hfs'⟩

theorem origin_of_isPrefix {o : Location} (h : q.text.toList <+: p.text.toList) (hne : q.text ≠ "")
    (ho : d.origin p = .ok o) : d.origin q = .ok o := by
  obtain ⟨cs, hcs⟩ := h
  have htext : p.text = q.text ++ String.ofList cs := String.toList_injective (by simp [← hcs])
  have habs : q.isAbsolute = p.isAbsolute := by
    have hq : q.text.toList ≠ [] := fun hnil => hne (String.toList_injective hnil)
    rw [Path.isAbsolute, Path.isAbsolute, ← hcs, List.head?_append_of_ne_nil _ hq]
  rw [origin_eq_ok ho, ← habs]
  unfold origin at ho ⊢
  split_ifs at ho with hnul hempty hsize
  all_goals
    rw [htext, String.utf8ByteSize_append] at hsize
    rw [if_neg, if_neg (by simpa using hne), if_neg (by omega)]
    rw [← hcs] at hnul
    simp_all

/-- The directories above a file that can be read need not be made. -/
theorem exists_makeParents_of_read (hd : d.IsRooted) (h : d.read p = .ok b) :
    ∃ d', d.makeParents p = (.ok (), d') := by
  obtain ⟨gs, g, o, parent, hgs, hfiller, -, ho, hparent, henter⟩ := exists_name_of_read hd h
  rw [makeParents]
  cases hq : p.parent? with
  | none => exact ⟨d, rfl⟩
  | some q =>
    dsimp only
    rw [makeDirectories]
    split_ifs with hempty
    · exact ⟨d, rfl⟩
    have hne : q.text ≠ "" := by simpa using hempty
    obtain ⟨htext, hs, fs, fs', rfl, hsegments, hfs, hfs'⟩ :=
      Path.isAbove_parent? hgs hfiller hq hne
    have hdir := (enter_eq_ok henter).1
    have hresolve : d.resolve q = .ok parent := by
      refine bind_eq_ok.2 ⟨o, origin_of_isPrefix htext hne ho, ?_⟩
      rw [hsegments]
      exact walk_of_append_fillers hparent hdir hfs hfs'
    have hthere : d.isDirectory q = true := by
      rw [isDirectory, nodeAt?, hresolve]
      simp [hdir]
    -- what cannot be made is a directory already
    obtain ⟨d', hd'⟩ : ∃ d', d.ensureDirectory q = .ok d' := by
      rw [ensureDirectory]
      cases d.makeDirectory q with
      | ok d' => exact ⟨d', rfl⟩
      | error e => exact ⟨d, if_pos hthere⟩
    rw [hd']
    exact ⟨d', rfl⟩

end Disk

namespace Changelog

variable {d : Disk} {p : Path} {content : String}

theorem exists_record_of_read (hd : d.IsRooted) (h : d.read p = .ok content.toUTF8) (e : Entry) :
    ∃ added d', record d p e = (.ok added, d') := by
  have hfile : readFile d p = .ok content := by rw [readFile, readText_eq_ok.2 h]
  have hlast : readLastLine d p = .ok (lastLine? content) := by
    rw [readLastLine, hfile]
    rfl
  rw [record, hlast]
  dsimp only
  split_ifs
  · exact ⟨false, d, rfl⟩
  · obtain ⟨d₁, hd₁⟩ := Disk.exists_makeParents_of_read hd h
    have hparents := d.evolves_makeParents p
    rw [hd₁] at hparents
    obtain ⟨d₂, hd₂⟩ := Disk.exists_append_of_read (hparents.isRooted hd)
      (hparents.read (Set.notMem_empty _) h) (addition content e).toUTF8
    rw [append, hfile]
    dsimp only
    rw [hd₁]
    dsimp only
    rw [hd₂]
    exact ⟨true, d₂, rfl⟩

end Changelog
end MergeNotes
