import Mathlib.Logic.Relation
import MergeNotes.Git.Status
import MergeNotes.Proofs.References
import MergeNotes.Proofs.Tree

namespace MergeNotes

def Disk.HoldsText (d : Disk) (l : Location) : Prop :=
  ∀ c, d.fileAt? l = some c → ∃ s : String, s.toUTF8 = c

namespace Git.Repository

variable {r : Repository} {d d' : Disk} {l k : Location} {p : Path} {root : Path} {b : ByteArray}

/-- A place at which nothing of the repository itself is. -/
def IsFree (r : Repository) (l : Location) : Prop :=
  ¬r.directory <+: l ∧ ¬r.worktree ++ [ownName] <+: l

theorem not_isFree_directory (r : Repository) (k : Location) : ¬r.IsFree (r.directory ++ k) :=
  fun h => h.1 (List.prefix_append _ _)

theorem not_isFree_own (r : Repository) (k : Location) :
    ¬r.IsFree (r.worktree ++ ownName :: k) := by
  rw [List.append_cons]
  exact fun h => h.2 (List.prefix_append _ _)

/-- One change to what is not the repository's own; the files that are written are texts. -/
inductive Edit (r : Repository) (d : Disk) : Disk → Prop
  | write {d' : Disk} {p : Path} {s : String} (h : d.write p s.toUTF8 = .ok d')
      (free : r.IsFree (d.locate p)) : Edit r d d'
  | makeDirectory {d' : Disk} {p : Path} (h : d.makeDirectory p = .ok d')
      (free : r.IsFree (d.locate p)) : Edit r d d'
  | remove {l : Location} (file : (d.fileAt? l).isSome) (free : r.IsFree l) : Edit r d (d.erase l)

structure Keeps (r : Repository) (d d' : Disk) : Prop where
  here : d'.here = d.here
  directory : ∀ l, d.node? l = some .directory → d'.node? l = some .directory
  node? : ∀ l, ¬r.IsFree l → d'.node? l = d.node? l

theorem keeps_put {n : Node} (hl : r.IsFree l) (hn : d.node? l = some .directory → n = .directory) :
    r.Keeps d (d.put l n) where
  here := rfl
  directory _ := Disk.directory_put hn
  node? _ hk := Disk.node?_put_of_ne fun hkl => hk (hkl ▸ hl)

theorem not_directory_of_fileAt? (hfile : (d.fileAt? l).isSome) :
    d.node? l ≠ some .directory := by
  intro hdir
  simp [Disk.fileAt?, hdir] at hfile

theorem keeps_erase (hl : r.IsFree l) (hfile : (d.fileAt? l).isSome) : r.Keeps d (d.erase l) where
  here := rfl
  directory _ := Disk.directory_erase (not_directory_of_fileAt? hfile)
  node? _ hk := Disk.node?_erase_of_ne fun hkl => hk (hkl ▸ hl)

theorem Edit.keeps (h : r.Edit d d') : r.Keeps d d' := by
  cases h with
  | write h free =>
    obtain ⟨l, g, hl, -, -, hn, rfl⟩ := Disk.write_eq_put h
    exact keeps_put (hl ▸ free) fun hdir => absurd hdir hn
  | makeDirectory h free =>
    obtain ⟨l, g, hl, -, -, -, rfl⟩ := Disk.makeDirectory_eq_put h
    exact keeps_put (hl ▸ free) fun _ => rfl
  | remove file free => exact keeps_erase free file

theorem Edit.isTree (h : r.Edit d d') (hd : d.IsTree) : d'.IsTree := by
  cases h with
  | write h =>
    obtain ⟨l, g, -, hg, hl, hn, rfl⟩ := Disk.write_eq_put h
    exact hd.put hg hl fun hdir => absurd hdir hn
  | makeDirectory h =>
    obtain ⟨l, g, -, hg, hl, -, rfl⟩ := Disk.makeDirectory_eq_put h
    exact hd.put hg hl fun _ => rfl
  | remove file => exact hd.erase (not_directory_of_fileAt? file)

theorem Edit.holdsText (h : r.Edit d d') (hd : d.HoldsText l) : d'.HoldsText l := by
  cases h with
  | @write _ p s h =>
    obtain ⟨k, g, -, -, -, -, rfl⟩ := Disk.write_eq_put h
    by_cases hl : l = k ++ [g]
    · subst hl
      intro c hc
      rw [Disk.fileAt?_put_file (by simp)] at hc
      exact ⟨s, Option.some.inj hc⟩
    · rwa [Disk.HoldsText, Disk.fileAt?_put_of_ne hl]
  | makeDirectory h =>
    obtain ⟨k, g, -, -, -, -, rfl⟩ := Disk.makeDirectory_eq_put h
    by_cases hl : l = k ++ [g]
    · subst hl
      simp [Disk.HoldsText, Disk.fileAt?, Disk.node?_put]
    · rwa [Disk.HoldsText, Disk.fileAt?_put_of_ne hl]
  | @remove k file =>
    by_cases hl : l = k
    · subst hl
      by_cases hnil : l = []
      · simp [Disk.fileAt?, hnil, Disk.node?] at file
      · simp [Disk.HoldsText, Disk.fileAt?, Disk.node?_erase hnil]
    · rwa [Disk.HoldsText, Disk.fileAt?, Disk.node?_erase_of_ne hl]

def Edits (r : Repository) : Disk → Disk → Prop := Relation.ReflTransGen (Edit r)

theorem Keeps.refl (r : Repository) (d : Disk) : r.Keeps d d :=
  ⟨rfl, fun _ h => h, fun _ _ => rfl⟩

theorem Keeps.trans {d'' : Disk} (h : r.Keeps d d') (h' : r.Keeps d' d'') : r.Keeps d d'' where
  here := h'.here.trans h.here
  directory l hl := h'.directory l (h.directory l hl)
  node? l hl := (h'.node? l hl).trans (h.node? l hl)

theorem Edits.keeps (h : r.Edits d d') : r.Keeps d d' := by
  induction h with
  | refl => exact .refl r d
  | tail _ hstep ih => exact ih.trans hstep.keeps

theorem Edits.isTree (h : r.Edits d d') (hd : d.IsTree) : d'.IsTree := by
  induction h with
  | refl => exact hd
  | tail _ hstep ih => exact hstep.isTree ih

theorem Edits.holdsText (h : r.Edits d d') (hd : d.HoldsText l) : d'.HoldsText l := by
  induction h with
  | refl => exact hd
  | tail _ hstep ih => exact hstep.holdsText ih

theorem isDirectory_congr (h : ∀ k, d'.node? (l ++ k) = d.node? (l ++ k)) :
    isDirectory d' l = isDirectory d l := by
  simp only [isDirectory, h]

theorem worktree_of_ofLink? (h : ofLink? d l b = some r) : r.worktree = l := by
  obtain ⟨p, -, h⟩ := Option.bind_eq_some_iff.1 h
  obtain ⟨m, -, h⟩ := Option.bind_eq_some_iff.1 h
  split_ifs at h
  cases h
  rfl

namespace Keeps

theorem own (h : r.Keeps d d') (k : Location) :
    d'.node? (r.worktree ++ ownName :: k) = d.node? (r.worktree ++ ownName :: k) :=
  h.node? _ (r.not_isFree_own k)

theorem inside (h : r.Keeps d d') (k : Location) :
    d'.node? (r.directory ++ k) = d.node? (r.directory ++ k) :=
  h.node? _ (r.not_isFree_directory k)

theorem ofLink? (h : r.Keeps d d') (hl : Repository.ofLink? d l b = some r) :
    Repository.ofLink? d' l b = some r := by
  obtain ⟨p, hp, hl⟩ := Option.bind_eq_some_iff.1 hl
  obtain ⟨m, hm, hl⟩ := Option.bind_eq_some_iff.1 hl
  split_ifs at hl with hdir
  cases hl
  have hwalk : follow? d' l p = some m := by
    rw [follow?, toOption_eq_some_iff] at hm ⊢
    exact Disk.walk_mono h.directory hm
  rw [Repository.ofLink?, hp]
  simp [hwalk, isDirectory_congr h.inside, hdir]

theorem ofOwn? (h : r.Keeps d d') (hl : Repository.ofOwn? d l = some r) :
    Repository.ofOwn? d' l = some r ∧
      ∀ k, d'.node? (l ++ ownName :: k) = d.node? (l ++ ownName :: k) := by
  unfold Repository.ofOwn? at hl ⊢
  split at hl
  · rename_i content hnode
    split_ifs at hl with hlast
    obtain ⟨m, rfl⟩ := List.getLast?_eq_some_iff.1 hlast
    rw [List.dropLast_concat] at hl ⊢
    have hm := worktree_of_ofLink? hl
    subst hm
    rw [h.own [], hnode]
    simp only [List.append_assoc]
    exact ⟨by simpa using h.ofLink? hl, fun k => h.own _⟩
  · rename_i hfile
    split_ifs at hl with hdir
    cases hl
    have hnode : d'.node? l = d.node? l := by simpa using h.inside []
    refine ⟨?_, fun k => h.inside _⟩
    rw [hnode]
    split
    · exact absurd (by assumption) (hfile _)
    · rw [isDirectory_congr h.inside, if_pos hdir]

theorem at? (h : r.Keeps d d') (hl : Repository.at? d l = some r) :
    Repository.at? d' l = some r := by
  unfold Repository.at? at hl ⊢
  dsimp only at hl ⊢
  split at hl
  · rename_i content hnode
    have hworktree := worktree_of_ofLink? hl
    subst hworktree
    rw [h.own [], hnode]
    exact h.ofLink? hl
  · rename_i hfile
    -- the directory in the place of the own files is as it was, be it one of a repository or not
    have hsame : (∀ k, d'.node? (l ++ [ownName] ++ k) = d.node? (l ++ [ownName] ++ k)) ∧
        (isDirectory d (l ++ [ownName]) = false → Repository.ofOwn? d' l = some r) := by
      split_ifs at hl with hdir
      · cases hl
        exact ⟨h.inside, fun hdir' => absurd hdir (by simp [hdir'])⟩
      · obtain ⟨hown, hsame⟩ := h.ofOwn? hl
        exact ⟨fun k => by simpa using hsame k, fun _ => hown⟩
    have hnode : d'.node? (l ++ [ownName]) = d.node? (l ++ [ownName]) := by
      simpa using hsame.1 []
    rw [hnode, isDirectory_congr hsame.1]
    split
    · exact absurd (by assumption) (hfile _)
    · split_ifs at hl ⊢ with hdir
      · exact hl
      · exact hsame.2 (by simpa using hdir)

theorem open? (h : r.Keeps d d') (hr : Repository.open? d root = some r) :
    Repository.open? d' root = some r := by
  unfold Repository.open? at hr ⊢
  split at hr
  · rename_i l hl
    rw [Disk.resolve_mono h.here h.directory hl]
    exact h.at? hr
  · cases hr

end Keeps

end Git.Repository

namespace Git.Host

variable {h : Host} {d : Disk} {r : Repository} {root : Path}

theorem isBelow_headName : Reference.IsBelow headName := by
  have hname : Octets.ofText "HEAD" = headName := by decide +kernel
  exact ⟨hname ▸ Octets.areBytes_ofBytes _, by decide⟩

theorem head_of_keeps (hkeeps : r.Keeps h.disk d) (hbelow : Reference.StayBelow h.disk r) :
    Host.head { h with disk := d } r = h.head r := by
  unfold head
  rw [Reference.read_congr hkeeps.inside isBelow_headName]
  split
  · rfl
  · rfl
  · rename_i hread
    rw [Reference.resolve_congr hkeeps.inside hbelow (hbelow _ _ isBelow_headName hread)]

theorem headTree?_of_keeps (hkeeps : r.Keeps h.disk d) (hbelow : Reference.StayBelow h.disk r) :
    Host.headTree? { h with disk := d } r = h.headTree? r := by
  rw [headTree?, head_of_keeps hkeeps hbelow, headTree?]
  rfl

theorem repository_of_keeps (hkeeps : r.Keeps h.disk d) (hr : h.repository root = .ok r) :
    Host.repository { h with disk := d } root = .ok r := by
  unfold repository at hr ⊢
  cases hopen : Repository.open? h.disk root with
  | none =>
    rw [hopen] at hr
    cases hr
  | some r' =>
    rw [hopen] at hr
    cases hr
    rw [hkeeps.open? hopen]
    rfl

end Git.Host
end MergeNotes
