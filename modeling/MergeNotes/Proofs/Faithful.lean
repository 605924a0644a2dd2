import MergeNotes.Git.Checkout
import MergeNotes.Proofs.InMemory
import MergeNotes.Proofs.Status

namespace MergeNotes.Git

variable {h : Host} {r : Repository} {root p q : Path} {committed : Tree} {d : Disk}
  {g : InMemory}

theorem Host.IsCheckedOut.edited (hout : h.IsCheckedOut root r committed)
    (hedits : r.Edits h.disk d) : Host.IsCheckedOut { h with disk := d } root r committed where
  opens := Host.repository_of_keeps hedits.keeps hout.opens
  head := by rw [Host.headTree?_of_keeps hedits.keeps hout.below, hout.head]
  index := hout.index
  names := hout.names
  tree := hedits.isTree hout.tree
  below := hout.below.congr hedits.keeps.inside

theorem InMemory.map_read {l : Location} (hg : g.disk = { d with here := l }) (htree : d.IsTree)
    (hq : q.IsNormal) (htext : d.HoldsText (l ++ q.segments)) :
    (g.read q).map String.toUTF8 = d.fileAt? (l ++ q.segments) := by
  have hlocate : g.disk.locate q = l ++ q.segments := by
    rw [Disk.locate, hq.isAbsolute, hg]
    exact Disk.foldl_follow_of_forall l hq.name
  have hfile : g.disk.fileAt? (g.disk.locate q) = d.fileAt? (l ++ q.segments) := by
    rw [hlocate, hg]
    rfl
  -- a file that is there can be read: the way to it is made of names, and it holds a text
  cases hc : d.fileAt? (l ++ q.segments) with
  | none =>
    cases hread : g.read q with
    | none => rfl
    | some s =>
      have hs := (Disk.read_eq_ok.1 (InMemory.read_eq_some.1 hread)).2
      rw [hfile, hc] at hs
      cases hs
  | some c =>
    obtain ⟨s, rfl⟩ := htext c hc
    have hresolve : g.disk.resolve q = .ok (g.disk.locate q) := by
      have horigin : g.disk.origin q = .ok l := by
        have hne : q.text.isEmpty = false := by
          by_contra hempty
          refine hq.nil_notMem ?_
          rw [Path.eq_of_isEmpty (Bool.eq_true_of_not_eq_false hempty)]
          decide
        rw [Disk.origin, if_neg (by simpa using hq.nul), if_neg (by simp [hne]),
          if_neg (Nat.not_le_of_lt hq.size), hq.isAbsolute, hg]
        rfl
      refine bind_eq_ok.2 ⟨l, horigin, ?_⟩
      rw [hlocate, hg]
      have hthere : (Disk.node? { d with here := l } (l ++ q.segments)).isSome := by
        change (d.node? (l ++ q.segments)).isSome
        rw [Disk.fileAt?_eq_some.1 hc]
        rfl
      exact Disk.IsTree.walk ⟨htree.nodup, htree.hangs⟩ hthere
    have hread : g.read q = some s :=
      InMemory.read_eq_some.2 (Disk.read_eq_ok.2 ⟨hresolve, hfile.trans hc⟩)
    rw [hread]
    rfl

theorem toUTF8_injective : Function.Injective String.toUTF8 := by
  intro s t h
  have hs := fromUTF8?_eq_some.2 h
  rw [fromUTF8?_eq_some.2 rfl] at hs
  exact (Option.some.inj hs).symm

theorem InMemory.isChanged_iff {l : Location} (hg : g.disk = { d with here := l })
    (htree : d.IsTree) (hq : q.IsNormal) (htext : d.HoldsText (l ++ q.segments))
    (hsnapshot : (lookup q g.snapshots).join.map String.toUTF8 = committed.lookup q.segments) :
    g.isChanged q = true ↔ d.fileAt? (l ++ q.segments) ≠ committed.lookup q.segments := by
  rw [← map_read hg htree hq htext, ← hsnapshot, (Option.map_injective toUTF8_injective).ne_iff,
    InMemory.isChanged, decide_eq_true_iff]

/-- After any edits of the worktree both say the same of a file, that it is changed exactly if it
does not hold what is committed, unless the file is new where the worktree does not show it. The
path is what the one that is asked about has after the root, and so that one itself unless it starts
with all that the root is made of. -/
theorem isChanged_agrees_iff (document : Path) (hout : h.IsCheckedOut root r committed)
    (hedits : r.Edits h.disk d) (hrules : r.HasNoRules d) (hp : Path.relativeTo root p = q)
    (hq : q.IsNormal) (hfile : r.IsFileAt d committed q.segments)
    (htext : h.disk.HoldsText (r.worktree ++ q.segments))
    (hg : g.disk = { d with here := r.worktree })
    (hsnapshot : (InMemory.lookup q g.snapshots).join.map String.toUTF8 =
      committed.lookup q.segments) :
    ∃ changed, (Host.handle root document (.isChanged p) { h with disk := d }).1 = .ok changed ∧
      (changed = g.isChanged q ↔ ¬(committed.lookup q.segments = none ∧
        (d.fileAt? (r.worktree ++ q.segments)).isSome ∧ r.Hides d q.segments)) ∧
      (g.isChanged q = true ↔
        d.fileAt? (r.worktree ++ q.segments) ≠ committed.lookup q.segments) ∧
      (¬root.components <+: p.components → q = p) := by
  have hout' := hout.edited hedits
  have hiff := InMemory.isChanged_iff hg hout'.tree hq (hedits.holdsText htext) hsnapshot
  obtain ⟨changed, hanswer, hchanged⟩ := Host.exists_isChanged hout' hfile hq hrules
  refine ⟨changed, by rw [Host.handle, hp, hanswer], ?_, hiff,
    fun hnot => hp.symm.trans (Path.relativeTo_of_not_isPrefix hnot)⟩
  rw [Bool.eq_iff_iff, hchanged, hiff]
  by_cases hnew : committed.lookup q.segments = none
  · simp only [hnew, true_and, Option.isSome_iff_ne_none]
    tauto
  · simp [hnew]

/-- A repository at a location, with such a commit in its index and such files beside its own. -/
def cloned (l : Location) (committed : Tree) (files : List (Location × Node)) : Host where
  disk := ⟨[(l ++ [".git".toList], .directory),
    (l ++ [".git".toList, "objects".toList], .directory),
    (l ++ [".git".toList, "refs".toList], .directory),
    (l ++ [".git".toList, "HEAD".toList],
      .file "0123456789abcdef0123456789abcdef01234567\n".toUTF8)] ++ files, []⟩
  home := l ++ [".git".toList]
  history := [("0123456789abcdef0123456789abcdef01234567", ⟨[], committed⟩)]
  index := committed

def notes : Tree := [(["CHANGELOG.md".toList], "# Notes\n".toUTF8)]

def clean : Host := cloned [] notes [(["CHANGELOG.md".toList], .file "# Notes\n".toUTF8)]

def atRoot : Repository := ⟨[".git".toList], []⟩

theorem isName_changelog : Disk.IsName "CHANGELOG.md".toList := by
  decide +kernel

theorem clean_isTree : clean.disk.IsTree := by
  refine ⟨by decide +kernel, fun x hx => ?_⟩
  have hname : ∀ s ∈ [".git", "objects", "refs", "HEAD"], Disk.IsName s.toList := by
    decide +kernel
  simp only [List.forall_mem_cons] at hname
  obtain ⟨hown, hobjects, hrefs, hhead, -⟩ := hname
  simp only [clean, cloned, List.nil_append, List.cons_append, List.mem_cons,
    List.not_mem_nil, or_false] at hx
  obtain rfl | rfl | rfl | rfl | rfl := hx
  · exact ⟨[], _, rfl, hown, rfl⟩
  · exact ⟨[".git".toList], _, rfl, hobjects, rfl⟩
  · exact ⟨[".git".toList], _, rfl, hrefs, rfl⟩
  · exact ⟨[".git".toList], _, rfl, hhead, rfl⟩
  · exact ⟨[], _, rfl, isName_changelog, rfl⟩

theorem clean_stayBelow : Reference.StayBelow clean.disk atRoot := by
  intro name next hname hread
  obtain ⟨l, b, hnode, hparse⟩ := Reference.exists_file_of_read hread
  have hne : l ≠ [] := by
    rintro rfl
    cases hnode
  have hfile := clean_isTree.mem_of_node? hnode hne
  simp only [clean, cloned, List.nil_append, List.cons_append, List.mem_cons, Prod.mk.injEq,
    reduceCtorEq, and_false, false_or, Node.file.injEq, List.not_mem_nil, or_false] at hfile
  obtain ⟨-, rfl⟩ | ⟨-, rfl⟩ := hfile
  · have hhead : Reference.parse?
        (Octets.ofBytes "0123456789abcdef0123456789abcdef01234567\n".toUTF8) =
          some (.direct "0123456789abcdef0123456789abcdef01234567") := by decide +kernel
    rw [hhead] at hparse
    cases hparse
  · have hnotes : Reference.parse? (Octets.ofBytes "# Notes\n".toUTF8) = none := by
      decide +kernel
    rw [hnotes] at hparse
    cases hparse

theorem clean_isCheckedOut : clean.IsCheckedOut ⟨"."⟩ atRoot notes where
  opens := rfl
  head := by decide +kernel
  index l := rfl
  names l hl := by
    obtain rfl : l = ["CHANGELOG.md".toList] := List.mem_singleton.1 (isSome_lookup_iff.1 hl)
    exact ⟨by decide, List.forall_mem_singleton.2 isName_changelog.slash, by decide +kernel⟩
  tree := clean_isTree
  below := clean_stayBelow

def edited : Disk := clean.disk.put ["CHANGELOG.md".toList] (.file "# Notes\n- Ours\n".toUTF8)

theorem edited_hasNoRules : atRoot.HasNoRules edited where
  inWorktree l := by
    refine Ignore.rulesOf_eq_nil l (by simp) fun hmem => ?_
    have hlast : ∀ k ∈ edited.nodes.map Prod.fst, k.getLast? ≠ some ".gitignore".toList := by
      decide +kernel
    exact hlast _ hmem List.getLast?_concat
  own := Ignore.rulesOf_eq_nil [] (by simp) (by decide +kernel)

theorem edited_isFileAt : atRoot.IsFileAt edited notes ["CHANGELOG.md".toList] where
  nothingBelow _ hk _ := List.mem_singleton.1 (isSome_lookup_iff.1 hk)
  noDirectory := nofun

theorem isChanged_agrees_iff_edited :
    atRoot.Edits clean.disk edited ∧
      (Host.handle ⟨"."⟩ ⟨"CHANGELOG.md"⟩ (.isChanged ⟨"CHANGELOG.md"⟩)
        { clean with disk := edited }).1 = .ok true := by
  have hsegments : (⟨"CHANGELOG.md"⟩ : Path).segments = ["CHANGELOG.md".toList] := by
    decide +kernel
  have hwrite : clean.disk.write ⟨"CHANGELOG.md"⟩ "# Notes\n- Ours\n".toUTF8 = .ok edited := rfl
  have hedits : atRoot.Edits clean.disk edited :=
    .single (.write hwrite ⟨by decide +kernel, by decide +kernel⟩)
  obtain ⟨changed, hanswer, hagree, hiff, -⟩ := isChanged_agrees_iff
    (p := ⟨"CHANGELOG.md"⟩) (q := ⟨"CHANGELOG.md"⟩)
    (g := { disk := edited, snapshots := [(⟨"CHANGELOG.md"⟩, some "# Notes\n")] })
    ⟨"CHANGELOG.md"⟩ clean_isCheckedOut hedits edited_hasNoRules (by decide +kernel)
    ⟨by decide +kernel, by decide +kernel, by decide +kernel⟩ (hsegments ▸ edited_isFileAt)
    (fun c hc => ⟨"# Notes\n", Option.some.inj hc⟩) rfl (by decide +kernel)
  have hcommitted : notes.lookup (⟨"CHANGELOG.md"⟩ : Path).segments ≠ none := by decide +kernel
  refine ⟨hedits, hanswer.trans (congrArg Except.ok ?_)⟩
  rw [hagree.2 fun hnew => hcommitted hnew.1]
  exact hiff.2 (by decide +kernel)

/-- Its worktree is named like the directory of a file in it. -/
def inDocs : Host :=
  cloned ["docs".toList] [] [(["docs".toList], .directory),
    (["docs".toList, "docs".toList], .directory),
    (["docs".toList, "docs".toList, "x.md".toList], .file "x\n".toUTF8)]

/-- A file that is not committed is said to be unchanged where its path starts like the root. -/
theorem isChanged_inDocs :
    inDocs.repository ⟨"docs"⟩ = .ok ⟨["docs".toList, ".git".toList], ["docs".toList]⟩ ∧
      inDocs.headTree? ⟨["docs".toList, ".git".toList], ["docs".toList]⟩ = some [] ∧
      inDocs.index = [] ∧
      (Host.handle ⟨"docs"⟩ ⟨"docs/x.md"⟩ (.isChanged ⟨"docs/x.md"⟩) inDocs).1 = .ok false ∧
      InMemory.isChanged { disk := { inDocs.disk with here := ["docs".toList] } } ⟨"docs/x.md"⟩ =
        true :=
  ⟨rfl, by decide +kernel, rfl, by decide +kernel, by decide +kernel⟩

end MergeNotes.Git
