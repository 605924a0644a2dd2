import MergeNotes.Proofs.Worktree

namespace MergeNotes

theorem eraseDups_eq_take {α : Type} [BEq α] [LawfulBEq α] {xs : List α} {a : α}
    (h : ∀ x ∈ xs, x = a) : xs.eraseDups = xs.take 1 := by
  cases xs with
  | nil => rfl
  | cons x xs =>
    rw [List.forall_mem_cons] at h
    have hrest : xs.filter (fun y => !y == x) = [] := by
      rw [List.filter_eq_nil_iff]
      intro y hy
      simp [h.1, h.2 y hy]
    rw [List.eraseDups_cons, hrest]
    rfl

namespace Path

variable {q : Path}

theorem segments_ne_nil (q : Path) : q.segments ≠ [] := Chars.pieces_ne_nil _

/-- A relative path that is written without detours and not too long. -/
structure IsNormal (q : Path) : Prop where
  name : ∀ s ∈ q.segments, isFiller s = false ∧ s ≠ ['.', '.']
  nul : '\x00' ∉ q.text.toList
  size : q.text.utf8ByteSize < Disk.pathBytesLimit

namespace IsNormal

theorem nil_notMem (h : q.IsNormal) : [] ∉ q.segments :=
  fun hmem => absurd (h.name [] hmem).1 (by decide)

theorem isPrefix_of_concat (h : q.IsNormal) {l : Location} (hl : q.segments <+: l ++ [[]]) :
    q.segments <+: l := by
  rcases List.prefix_concat_iff.1 hl with heq | hprefix
  · exact absurd (by simp [heq]) h.nil_notMem
  · exact hprefix

theorem isAbsolute (h : q.IsNormal) : q.isAbsolute = false := by
  by_contra habs
  obtain ⟨gs, hgs⟩ := exists_segments_eq_cons_of_isAbsolute (Bool.eq_true_of_not_eq_false habs)
  exact h.nil_notMem (by simp [hgs])

theorem startsWithName (h : q.IsNormal) : Git.Host.startsWithName q = true := by
  obtain ⟨g, gs, hgs⟩ := List.exists_cons_of_ne_nil q.segments_ne_nil
  obtain ⟨hg, hup⟩ := h.name g (by simp [hgs])
  have hhere : q.segments.head? ≠ some ['.'] := by
    rintro hhere
    rw [hgs, List.head?_cons, Option.some.injEq] at hhere
    rw [hhere] at hg
    cases hg
  have hstart : q.start? = none := by simp [start?, h.isAbsolute, hhere]
  have hcomponents : q.components.head? = some (.name g) := by
    simp [components, body, hstart, hgs, hg, Component.ofSegment, hup]
  rw [Git.Host.startsWithName, hcomponents]
  simpa using h.nul

theorem getLast?_text (h : q.IsNormal) : q.text.toList.getLast? ≠ some '/' := by
  obtain ⟨gs, g, hgs⟩ :=
    (List.eq_nil_or_concat' q.segments).resolve_left q.segments_ne_nil
  refine getLast?_text_ne hgs ?_
  rintro rfl
  exact h.nil_notMem (by simp [hgs])

theorem isPrefix_of_covers (h : q.IsNormal) {name : List Char}
    (hname : Git.Host.covers q.text.toList name = true) :
    q.segments <+: Chars.pieces (· == '/') name := by
  rw [Git.Host.covers, if_neg h.getLast?_text, Bool.or_eq_true] at hname
  rcases hname with hname | hname
  · rw [eq_of_beq hname]
    exact List.prefix_rfl
  · obtain ⟨rest, rfl⟩ := List.isPrefixOf_iff_prefix.1 hname
    rw [List.append_assoc, List.singleton_append, Chars.pieces_append (by simp)]
    exact List.prefix_append _ _

end IsNormal

end Path

namespace Git

structure Repository.IsFileAt (r : Repository) (d : Disk) (committed : Tree) (l : Location) :
    Prop where
  nothingBelow : ∀ k, (committed.lookup k).isSome → l <+: k → k = l
  noDirectory : d.node? (r.worktree ++ l) ≠ some .directory

/-- A location that the worktree has nothing to do with: among the files of a repository, or in a
directory that holds a repository of its own. -/
def Repository.Hides (r : Repository) (d : Disk) (l : Location) : Prop :=
  (∃ s ∈ l, Host.isOwnName s = true) ∨
    ∃ k, k <+: l ∧ k ≠ [] ∧ (d.node? (r.worktree ++ k ++ [ownName])).isSome

structure Repository.HasNoRules (r : Repository) (d : Disk) : Prop where
  inWorktree : ∀ l, Ignore.rulesOf d l (r.worktree ++ l ++ [".gitignore".toList]) = []
  own : Ignore.rulesOf d [] (r.directory ++ ["info".toList, "exclude".toList]) = []

theorem Ignore.rulesOf_eq_nil {d : Disk} {l : Location} (above : Location) (hl : l ≠ [])
    (h : l ∉ d.nodes.map Prod.fst) : rulesOf d above l = [] := by
  rw [rulesOf, Disk.node?, if_neg hl, lookup_eq_none_iff.2 h]

theorem Ignore.isIgnored_eq_false {r : Repository} {d : Disk} (h : r.HasNoRules d)
    (isDirectory : Bool) (l : Location) : isIgnored d r isDirectory l = false := by
  have hverdict : ∀ b k, verdictFrom? d r b k = none := by
    intro b k
    simp only [verdictFrom?, h.inWorktree, h.own]
    simp [verdict?]
  simp [isIgnored, hverdict]

namespace Host

variable {h : Host} {r : Repository} {root q : Path} {committed : Tree} {l : Location} {n : Node}

theorem mem_below_iff :
    (l, n) ∈ h.below r ↔
      (r.worktree ++ l, n) ∈ h.disk.nodes ∧ ∀ s ∈ l, isOwnName s = false := by
  rw [below, List.mem_filterMap]
  constructor
  · rintro ⟨⟨k, m⟩, hk, hl⟩
    dsimp only at hl
    split_ifs at hl with hbelow
    cases hl
    obtain ⟨⟨t, rfl⟩, hown⟩ : r.worktree <+: k ∧ ∀ s ∈ k.drop r.worktree.length,
        isOwnName s = false := by simpa using hbelow
    rw [List.drop_left] at hown ⊢
    exact ⟨hk, hown⟩
  · rintro ⟨hl, hown⟩
    refine ⟨_, hl, ?_⟩
    simpa using hown

theorem lookup_worktree (htree : h.disk.IsTree) (hl : l ≠ [])
    (hown : ∀ s ∈ l, isOwnName s = false) :
    (h.worktree r).lookup l = h.disk.fileAt? (r.worktree ++ l) := by
  rw [worktree, below, List.filterMap_filterMap,
    lookup_filterMap (k := r.worktree ++ l) htree.nodup]
  · rw [Disk.fileAt?, Disk.node?, if_neg (by simp [hl])]
    cases h.disk.nodes.lookup (r.worktree ++ l) with
    | none => rfl
    | some n =>
      have hbelow : (r.worktree.isPrefixOf (r.worktree ++ l) && !l.any isOwnName) = true := by
        simpa using hown
      cases n <;> simp only [Option.bind_some, List.drop_left, hbelow, if_true] <;> rfl
  · rintro ⟨k, n⟩ ⟨m, c⟩ hk
    obtain ⟨⟨m', n'⟩, hbelow, hfile⟩ := Option.bind_eq_some_iff.1 hk
    dsimp only at hbelow hfile
    split_ifs at hbelow with hprefix
    cases hbelow
    obtain ⟨t, rfl⟩ : r.worktree <+: k := by simp_all
    cases n with
    | directory => cases hfile
    | file content =>
      cases hfile
      simp

theorem of_mem_worktree {c : ByteArray} (htree : h.disk.IsTree) (hl : (l, c) ∈ h.worktree r) :
    h.disk.node? (r.worktree ++ l) = some (.file c) ∧ ∀ s ∈ l, isOwnName s = false := by
  obtain ⟨⟨k, n⟩, hk, hc⟩ := List.mem_filterMap.1 hl
  cases n with
  | directory => cases hc
  | file content =>
    cases hc
    obtain ⟨hnode, hown⟩ := mem_below_iff.1 hk
    exact ⟨htree.node?_of_mem hnode, hown⟩

theorem covers_segments (q : Path) : covers q.text.toList (nameOf q.segments) = true := by
  simp [covers, nameOf, Path.segments, Chars.intercalate_pieces]

def tracked (h : Host) (r : Repository) (path : List Char) : List Location :=
  ((h.indexOf r).map Prod.fst).filter fun l => covers path (nameOf l)

/-- The files of the worktree that are in no repository of their own. -/
def present (h : Host) (r : Repository) (path : List Char) : Tree :=
  (h.worktree r).filter fun x => !(h.nested r (h.tracked r path)).any (·.isPrefixOf x.1)

def files (h : Host) (r : Repository) (committed : Tree) (path : List Char) : List Location :=
  ((committed ++ h.indexOf r ++ h.present r path).map Prod.fst).filter fun l =>
    covers path (nameOf l)

theorem entries_eq (h : Host) (r : Repository) (committed : Tree) (path : List Char) :
    h.entries r committed path =
      (h.files r committed path).eraseDups.map (fun l => ⟨nameOf l,
        (versions committed (h.indexOf r) (h.present r path) l).isChanged
          (Ignore.isIgnored h.disk r false l)⟩) ++
      ((h.nested r (h.tracked r path)).filter fun l =>
        covers path (nameOf l ++ ['/']) && takesIn path (nameOf l ++ ['/'])).map
          (h.nestedEntry r) := rfl

theorem of_mem_nested {files : List Location} (hl : l ∈ h.nested r files) :
    l ≠ [] ∧ (h.disk.node? (r.worktree ++ l ++ [Repository.ownName])).isSome ∧
      ∀ file ∈ files, l <+: file → l = file := by
  have hnested := (Bool.and_eq_true_iff.1 (List.mem_filter.1 hl).2).1
  simpa [and_assoc] using hnested

structure IsCheckedOut (h : Host) (root : Path) (r : Repository) (committed : Tree) : Prop where
  opens : h.repository root = .ok r
  head : h.headTree? r = some committed
  index : ∀ l, (h.indexOf r).lookup l = committed.lookup l
  names : ∀ l, (committed.lookup l).isSome →
    l ≠ [] ∧ Path.SlashFree l ∧ ∀ s ∈ l, isOwnName s = false
  tree : h.disk.IsTree
  below : Reference.StayBelow h.disk r

section

variable (hout : h.IsCheckedOut root r committed)
  (hfile : r.IsFileAt h.disk committed q.segments)
include hout

theorem mem_indexOf_iff (l : Location) :
    l ∈ (h.indexOf r).map Prod.fst ↔ (committed.lookup l).isSome := by
  rw [← hout.index, isSome_lookup_iff]

include hfile

theorem eq_nil_of_isSome {gs : List Path.Segment}
    (hgs : (h.disk.node? (r.worktree ++ (q.segments ++ gs))).isSome) : gs = [] := by
  cases gs with
  | nil => rfl
  | cons g gs =>
    rw [← List.append_assoc] at hgs
    exact absurd (hout.tree.above_append hgs).2 hfile.noDirectory

theorem lookup_present
    (hshown : ¬(committed.lookup q.segments = none ∧ r.Hides h.disk q.segments)) :
    (h.present r q.text.toList).lookup q.segments =
      h.disk.fileAt? (r.worktree ++ q.segments) := by
  have hown : ∀ s ∈ q.segments, isOwnName s = false := by
    by_cases hnew : committed.lookup q.segments = none
    · intro s hs
      by_contra hs'
      exact hshown ⟨hnew, .inl ⟨s, hs, by simpa using hs'⟩⟩
    · exact (hout.names _ (Option.isSome_iff_ne_none.2 hnew)).2.2
  -- a repository above the file would hide it if it is new, and if it is committed be in its place
  have hoff : ∀ l ∈ h.nested r (h.tracked r q.text.toList), ¬l <+: q.segments := by
    intro l hl hprefix
    obtain ⟨hne, hnode, htracked⟩ := of_mem_nested hl
    by_cases hnew : committed.lookup q.segments = none
    · exact hshown ⟨hnew, .inr ⟨l, hprefix, hne, hnode⟩⟩
    · have hmem : q.segments ∈ h.tracked r q.text.toList := List.mem_filter.2
        ⟨(mem_indexOf_iff hout _).2 (Option.isSome_iff_ne_none.2 hnew), covers_segments q⟩
      rw [htracked _ hmem hprefix] at hnode
      exact hfile.noDirectory (hout.tree.above hnode).2
  rw [present, lookup_filter (p := fun k => !(h.nested r (h.tracked r q.text.toList)).any
    (·.isPrefixOf k)), lookup_worktree hout.tree q.segments_ne_nil hown]
  simpa using hoff

variable (hq : q.IsNormal)
include hq

theorem eq_of_covers (hl : (committed.lookup l).isSome)
    (hcovers : covers q.text.toList (nameOf l) = true) : l = q.segments := by
  obtain ⟨hne, hfree, -⟩ := hout.names l hl
  have hprefix := hq.isPrefix_of_covers hcovers
  rw [nameOf, Chars.pieces_intercalate (by simp) hne hfree] at hprefix
  exact hfile.nothingBelow l hl hprefix

theorem eq_of_mem_files (hl : l ∈ h.files r committed q.text.toList) : l = q.segments := by
  rw [files, List.mem_filter, List.map_append, List.map_append, List.mem_append, List.mem_append,
    mem_indexOf_iff hout] at hl
  obtain ⟨(hmem | hmem) | hmem, hcovers⟩ := hl
  · exact eq_of_covers hout hfile hq (isSome_lookup_iff.2 hmem) hcovers
  · exact eq_of_covers hout hfile hq hmem hcovers
  · obtain ⟨⟨k, c⟩, hk, rfl⟩ := List.mem_map.1 hmem
    have hprefix := hq.isPrefix_of_covers hcovers
    have hnode := (of_mem_worktree hout.tree (List.mem_of_mem_filter hk)).1
    have hsome : (h.disk.node? (r.worktree ++ k)).isSome := by rw [hnode]; rfl
    by_cases hne : k = []
    · subst hne
      exact absurd (List.prefix_nil.1 (hq.isPrefix_of_concat hprefix)) q.segments_ne_nil
    · rw [nameOf, Chars.pieces_intercalate (by simp) hne
        fun s hs => (hout.tree.isName hsome s hs).slash] at hprefix
      obtain ⟨gs, rfl⟩ := hprefix
      rw [eq_nil_of_isSome hout hfile hsome, List.append_nil]

theorem nested_filter_eq_nil :
    ((h.nested r (h.tracked r q.text.toList)).filter fun l =>
      covers q.text.toList (nameOf l ++ ['/']) &&
        takesIn q.text.toList (nameOf l ++ ['/'])) = [] := by
  rw [List.filter_eq_nil_iff]
  intro l hl htaken
  obtain ⟨hne, hnode, -⟩ := of_mem_nested hl
  have hprefix := hq.isPrefix_of_covers (Bool.and_eq_true_iff.1 htaken).1
  have hdir := (hout.tree.above hnode).2
  rw [Chars.pieces_append (by simp), nameOf, Chars.pieces_intercalate (by simp) hne
    fun s hs => (hout.tree.isName (by rw [hdir]; rfl) s hs).slash] at hprefix
  obtain ⟨gs, rfl⟩ := hq.isPrefix_of_concat hprefix
  rw [List.append_assoc, List.append_assoc] at hnode
  have hnil := eq_nil_of_isSome hout hfile hnode
  simp at hnil

theorem exists_mem_nested (hnew : committed.lookup q.segments = none)
    (hown : ∀ s ∈ q.segments, isOwnName s = false) {k : Location} (hk : k <+: q.segments)
    (hne : k ≠ []) (hnode : (h.disk.node? (r.worktree ++ k ++ [Repository.ownName])).isSome) :
    ∃ l ∈ h.nested r (h.tracked r q.text.toList), l <+: q.segments := by
  have htracked : h.tracked r q.text.toList = [] := by
    rw [List.eq_nil_iff_forall_not_mem]
    intro l hl
    rw [tracked, List.mem_filter, mem_indexOf_iff hout] at hl
    rw [eq_of_covers hout hfile hq hl.1 hl.2, hnew] at hl
    cases hl.1
  have hexists : ∃ n, q.segments.take n ≠ [] ∧
      (h.disk.node? (r.worktree ++ q.segments.take n ++ [Repository.ownName])).isSome := by
    refine ⟨k.length, ?_⟩
    rw [← List.prefix_iff_eq_take.1 hk]
    exact ⟨hne, hnode⟩
  -- the shortest start of the path with a repository of its own is not inside another one
  obtain ⟨n, ⟨hfirst, hthere⟩, hmin⟩ : ∃ n, (q.segments.take n ≠ [] ∧
      (h.disk.node? (r.worktree ++ q.segments.take n ++ [Repository.ownName])).isSome) ∧
        ∀ m < n, ¬(q.segments.take m ≠ [] ∧
          (h.disk.node? (r.worktree ++ q.segments.take m ++ [Repository.ownName])).isSome) :=
    ⟨_, Nat.find_spec hexists, fun _ => Nat.find_min hexists⟩
  refine ⟨q.segments.take n, ?_, List.take_prefix _ _⟩
  rw [nested, htracked, List.mem_filter]
  constructor
  · exact List.mem_map.2 ⟨(_, .directory), mem_below_iff.2
      ⟨hout.tree.mem_of_node? (hout.tree.above hthere).2 (by simp [hfirst]),
        fun s hs => hown s (List.mem_of_mem_take hs)⟩, rfl⟩
  · have hshorter : ∀ m < (q.segments.take n).length, (q.segments.take n).take m ≠ [] →
        (h.disk.node? (r.worktree ++ (q.segments.take n).take m ++
          [Repository.ownName])).isSome = false := by
      intro m hm hne'
      rw [List.length_take] at hm
      rw [List.take_take, Nat.min_eq_left (by omega)] at hne' ⊢
      simpa [hne'] using hmin m (by omega)
    simpa [hfirst] using And.intro hthere hshorter

theorem lookup_present_of_hides (hnew : committed.lookup q.segments = none)
    (hhides : r.Hides h.disk q.segments) :
    (h.present r q.text.toList).lookup q.segments = none := by
  rw [lookup_eq_none_iff]
  intro hmem
  obtain ⟨⟨l, c⟩, hl, heq⟩ := List.mem_map.1 hmem
  dsimp only at heq
  rw [present, List.mem_filter, heq] at hl
  obtain ⟨hl, hshown⟩ := hl
  have hown := (of_mem_worktree hout.tree hl).2
  rcases hhides with ⟨s, hs, hs'⟩ | ⟨k, hk, hne, hnode⟩
  · rw [hown s hs] at hs'
    cases hs'
  · obtain ⟨m, hm, hprefix⟩ := exists_mem_nested hout hfile hq hnew hown hk hne hnode
    have hany : (h.nested r (h.tracked r q.text.toList)).any (·.isPrefixOf q.segments) = true :=
      List.any_eq_true.2 ⟨m, hm, List.isPrefixOf_iff_prefix.2 hprefix⟩
    simp [hany] at hshown

variable (hrules : r.HasNoRules h.disk)
include hrules

/-- A file is changed exactly if the worktree shows something else than what is committed. -/
theorem isChanged_eq :
    h.isChanged root q = .ok (committed.lookup q.segments !=
      (h.present r q.text.toList).lookup q.segments) := by
  have hname : nameOf q.segments = q.text.toList := Chars.intercalate_pieces '/' _
  -- no file but this one is covered, so there is one entry at most
  have hentries : h.entries r committed q.text.toList =
      ((h.files r committed q.text.toList).take 1).map fun _ => ⟨q.text.toList,
        committed.lookup q.segments != (h.present r q.text.toList).lookup q.segments⟩ := by
    rw [entries_eq, nested_filter_eq_nil hout hfile hq, List.map_nil, List.append_nil,
      eraseDups_eq_take fun _ => eq_of_mem_files hout hfile hq]
    refine List.map_congr_left fun l hl => ?_
    obtain rfl := eq_of_mem_files hout hfile hq (List.mem_of_mem_take hl)
    rw [hname, versions, hout.index, Ignore.isIgnored_eq_false hrules, Versions.isChanged]
    simp
  rw [isChanged, hout.opens]
  cases hfiles : h.files r committed q.text.toList with
  | nil =>
    -- the file is nowhere, so there is nothing that could be changed
    have hnowhere : q.segments ∉
        (committed ++ h.indexOf r ++ h.present r q.text.toList).map Prod.fst := by
      intro hmem
      have hmem : q.segments ∈ h.files r committed q.text.toList :=
        List.mem_filter.2 ⟨hmem, covers_segments q⟩
      rw [hfiles] at hmem
      cases hmem
    simp only [List.map_append, List.mem_append, not_or] at hnowhere
    rw [lookup_eq_none_iff.2 hnowhere.1.1, lookup_eq_none_iff.2 hnowhere.2]
    simp [hout.head, hq.startsWithName, hentries, hfiles, bind, Except.bind]
  | cons l ls =>
    simp [hout.head, hq.startsWithName, hentries, hfiles, bind, Except.bind]

/-- A file is changed exactly if it holds something else than what is committed, unless it is new
where the worktree does not show it. -/
theorem exists_isChanged :
    ∃ changed, h.isChanged root q = .ok changed ∧ (changed = true ↔
      h.disk.fileAt? (r.worktree ++ q.segments) ≠ committed.lookup q.segments ∧
        ¬(committed.lookup q.segments = none ∧ r.Hides h.disk q.segments)) := by
  refine ⟨_, isChanged_eq hout hfile hq hrules, ?_⟩
  by_cases hhidden : committed.lookup q.segments = none ∧ r.Hides h.disk q.segments
  · rw [lookup_present_of_hides hout hfile hq hhidden.1 hhidden.2, hhidden.1]
    simp [hhidden.2]
  · rw [lookup_present hout hfile hhidden, bne_iff_ne, ne_comm, and_iff_left hhidden]

end

end Host
end Git
end MergeNotes
