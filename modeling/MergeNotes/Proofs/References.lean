import MergeNotes.Git.Reference
import MergeNotes.Proofs.JsonObject
import MergeNotes.Proofs.Writable

namespace MergeNotes

namespace Octets

variable {o : Octets} {s : String}

def AreBytes (o : Octets) : Prop := ∀ c ∈ o, c.toNat < 256

theorem toList_loop (b : ByteArray) (i : Nat) (read : List UInt8) :
    ByteArray.toList.loop b i read = read.reverse ++ b.data.toList.drop i := by
  induction i, read using ByteArray.toList.loop.induct b with
  | case1 i read h ih =>
    have hi : i < b.data.toList.length := h
    rw [ByteArray.toList.loop, if_pos h, ih, List.drop_eq_getElem_cons hi]
    simp [ByteArray.get!, h]
  | case2 i read h =>
    have hi : b.data.toList.length ≤ i := Nat.le_of_not_lt h
    rw [ByteArray.toList.loop, if_neg h, List.drop_of_length_le hi, List.append_nil]

theorem toList_eq (b : ByteArray) : b.toList = b.data.toList := toList_loop b 0 []

theorem toNat_ofNat_byte (x : UInt8) : (Char.ofNat x.toNat).toNat = x.toNat :=
  Json.toNat_ofNat (.inl (x.toNat_lt.trans (by decide)))

theorem areBytes_ofBytes (b : ByteArray) : AreBytes (ofBytes b) := by
  intro c hc
  obtain ⟨x, -, rfl⟩ := List.mem_map.1 hc
  rw [toNat_ofNat_byte]
  exact x.toNat_lt

theorem ofBytes_bytes (h : AreBytes o) : ofBytes (bytes o) = o := by
  rw [ofBytes, toList_eq, bytes, List.map_map]
  conv_rhs => rw [← List.map_id o]
  refine List.map_congr_left fun c hc => ?_
  rw [Function.comp_apply, UInt8.toNat_ofNat', Nat.mod_eq_of_lt (h c hc), Char.ofNat_toNat, id]

theorem text?_eq_some : text? o = some s ↔ s.toUTF8 = bytes o := fromUTF8?_eq_some

theorem ofText_of_text? (ho : AreBytes o) (h : text? o = some s) : ofText s = o := by
  rw [ofText, text?_eq_some.1 h, ofBytes_bytes ho]

theorem ofText_append (s t : String) : ofText (s ++ t) = ofText s ++ ofText t := by
  have hdata : (s ++ t).toUTF8.data.toList = s.toUTF8.data.toList ++ t.toUTF8.data.toList := by
    simp
  rw [ofText, ofBytes, toList_eq, hdata, List.map_append, ← toList_eq, ← toList_eq]
  rfl

theorem AreBytes.mono {o' : Octets} (h : AreBytes o) (hsub : o' ⊆ o) : AreBytes o' :=
  fun c hc => h c (hsub hc)

theorem mem_pieces_ofText {gs : List Path.Segment} {g : Path.Segment} {w : Octets} (hg : g ∈ gs)
    (hw : w ∈ Chars.pieces (· == '/') (ofText (String.ofList g))) :
    w ∈ Chars.pieces (· == '/') (ofText (String.ofList (['/'].intercalate gs))) := by
  have hslash : ofText (String.ofList ['/']) = ['/'] := by decide +kernel
  induction gs with
  | nil => cases hg
  | cons v vs ih =>
    cases vs with
    | nil =>
      obtain rfl := List.mem_singleton.1 hg
      simpa using hw
    | cons u us =>
      rw [List.intercalate_cons_cons, String.ofList_append, String.ofList_append, ofText_append,
        ofText_append, hslash, List.append_assoc, List.singleton_append,
        Chars.pieces_append (by simp), List.mem_append]
      rcases List.mem_cons.1 hg with rfl | hg
      · exact .inl hw
      · exact .inr (ih hg)

/-- A path goes up only where its bytes do. -/
theorem up_notMem_segments (ho : AreBytes o) (h : text? o = some s)
    (hup : ['.', '.'] ∉ Chars.pieces (· == '/') o) : ['.', '.'] ∉ (Path.mk s).segments := by
  intro hmem
  have hdots : ['.', '.'] ∈ Chars.pieces (· == '/') (ofText (String.ofList ['.', '.'])) := by
    decide +kernel
  have hpiece := mem_pieces_ofText hmem hdots
  rw [Path.segments, Chars.intercalate_pieces, String.ofList_toList, ofText_of_text? ho h] at hpiece
  exact hup hpiece

end Octets

theorem Chars.suffix_of_dropPrefix? {pat cs rest : List Char}
    (h : dropPrefix? pat cs = some rest) : rest <:+ cs := by
  rw [dropPrefix?] at h
  split_ifs at h
  cases h
  exact List.drop_suffix _ _

theorem Chars.isPrefix_trimEndBy (p : Char → Bool) (cs : List Char) : trimEndBy p cs <+: cs := by
  rw [← List.reverse_suffix, trimEndBy, List.reverse_reverse]
  exact List.dropWhile_suffix _

namespace Git.Reference

open Octets (AreBytes)

variable {d d' : Disk} {r : Repository} {name reference : Name} {sha : Sha}

theorem areBytes_of_parse? {content : Octets} (hcontent : AreBytes content)
    (h : parse? content = some (.symbolic name)) : AreBytes name := by
  unfold parse? at h
  split at h
  · split at h
    · cases h
    · cases h
    · rename_i rest _ hrest
      cases h
      refine hcontent.mono fun c hc => ?_
      have hmem := (Chars.suffix_of_dropPrefix? hrest).subset ((List.takeWhile_prefix _).subset hc)
      exact (Chars.isPrefix_trimEndBy _ content).subset hmem
  · split at h
    · cases h
    · split_ifs at h
      cases h
    · cases h

theorem exists_file_of_readFile {content : Octets} (h : readFile d r name = .ok content) :
    ∃ l b, d.node? l = some (.file b) ∧ content = Octets.ofBytes b := by
  unfold readFile at h
  split at h
  · cases h
  split_ifs at h
  split at h
  · cases h
  split at h
  · cases h
    exact ⟨_, _, by assumption, rfl⟩
  · cases h

theorem exists_file_of_read (h : read d r name = .ok (.symbolic reference)) :
    ∃ l b, d.node? l = some (.file b) ∧
      parse? (Octets.ofBytes b) = some (.symbolic reference) := by
  unfold read at h
  split at h
  · rename_i content hfile
    obtain ⟨l, b, hnode, rfl⟩ := exists_file_of_readFile hfile
    refine ⟨l, b, hnode, ?_⟩
    cases hparse : parse? (Octets.ofBytes b) with
    | none =>
      rw [hparse] at h
      cases h
    | some target =>
      rw [hparse] at h
      cases h
      rfl
  · cases h
  -- a packed name has a commit, and never another name
  · cases hpacked : readPacked d r name <;> rw [hpacked] at h <;> cases h

theorem areBytes_of_read (h : read d r name = .ok (.symbolic reference)) : AreBytes reference := by
  obtain ⟨l, b, -, hparse⟩ := exists_file_of_read h
  exact areBytes_of_parse? (Octets.areBytes_ofBytes b) hparse

theorem areBytes_of_normalize? (hname : AreBytes name) (h : normalize? name = some reference) :
    AreBytes reference := by
  dsimp only [normalize?] at h
  split_ifs at h
  cases h
  intro c hc
  obtain hc | ⟨part, hpart, hc⟩ := Chars.mem_intercalate hc
  · rw [List.mem_singleton.1 hc]
    decide
  · have hmem := Chars.mem_intercalate_of_mem ['/'] (List.mem_of_mem_filter hpart) hc
    rw [Chars.intercalate_pieces] at hmem
    exact hname c hmem

theorem areBytes_of_follow {depth : Nat} (hname : AreBytes name)
    (h : follow d r depth name = .ok (reference, sha)) : AreBytes reference := by
  induction depth generalizing name with
  | zero =>
    unfold follow at h
    split at h
    · cases h
    · cases h
      exact hname
    · cases h
  | succ depth ih =>
    unfold follow at h
    split at h
    · cases h
    · cases h
      exact hname
    · exact ih (areBytes_of_read (by assumption)) h

theorem areBytes_of_resolve (hname : AreBytes name)
    (h : resolve d r name = .ok (reference, sha)) : AreBytes reference := by
  unfold resolve at h
  split at h
  · cases h
  · rename_i hnormal
    exact areBytes_of_follow (areBytes_of_normalize? hname hnormal) h

theorem areBytes_shorthand (hname : AreBytes name) : AreBytes (shorthand name) := by
  unfold shorthand
  cases hfound : ["refs/heads/", "refs/tags/", "refs/remotes/", "refs/"].findSome? fun start =>
      Chars.dropPrefix? start.toList name with
  | none => exact hname
  | some rest =>
    obtain ⟨start, -, hrest⟩ := List.exists_of_findSome?_eq_some hfound
    exact hname.mono (Chars.suffix_of_dropPrefix? hrest).subset

structure IsBelow (name : Name) : Prop where
  areBytes : AreBytes name
  up : ['.', '.'] ∉ Chars.pieces (· == '/') name

/-- Names that do not go up stand for none that do. -/
def StayBelow (d : Disk) (r : Repository) : Prop :=
  ∀ name next, IsBelow name → read d r name = .ok (.symbolic next) → IsBelow next

theorem IsBelow.normalize? (hname : IsBelow name) (h : normalize? name = some reference) :
    IsBelow reference := by
  refine ⟨areBytes_of_normalize? hname.areBytes h, ?_⟩
  dsimp only [Reference.normalize?] at h
  split_ifs at h
  cases h
  by_cases hnil : (Chars.pieces (· == '/') name).filter (!·.isEmpty) = []
  · rw [hnil]
    decide
  · rw [Chars.pieces_intercalate (by simp) hnil]
    · exact fun hmem => hname.up (List.mem_of_mem_filter hmem)
    · exact fun w hw => Chars.mem_pieces (List.mem_of_mem_filter hw)

section

variable (hsame : ∀ k, d'.node? (r.directory ++ k) = d.node? (r.directory ++ k))
include hsame

theorem readFile_congr (hname : IsBelow name) : readFile d' r name = readFile d r name := by
  unfold readFile
  cases hpath : Octets.text? name with
  | none => rfl
  | some path =>
    obtain ⟨hwalk, hnode⟩ := Disk.walk_congr hsame
      (Octets.up_notMem_segments hname.areBytes hpath hname.up)
    dsimp only
    rw [hwalk]
    split_ifs
    · rfl
    · split
      · rfl
      · rw [hnode _ (by assumption)]

theorem read_congr (hname : IsBelow name) : read d' r name = read d r name := by
  rw [read, readFile_congr hsame hname, readPacked, hsame, read, readPacked]

theorem StayBelow.congr (hbelow : StayBelow d r) : StayBelow d' r := by
  intro name next hname hread
  rw [read_congr hsame hname] at hread
  exact hbelow name next hname hread

theorem follow_congr (hbelow : StayBelow d r) {depth : Nat} (hname : IsBelow name) :
    follow d' r depth name = follow d r depth name := by
  induction depth generalizing name with
  | zero => rw [follow, read_congr hsame hname, follow]
  | succ depth ih =>
    rw [follow, read_congr hsame hname, follow]
    split
    · rfl
    · rfl
    · exact ih (hbelow _ _ hname (by assumption))

theorem resolve_congr (hbelow : StayBelow d r) (hname : IsBelow name) :
    resolve d' r name = resolve d r name := by
  unfold resolve
  split
  · rfl
  · exact follow_congr hsame hbelow (hname.normalize? (by assumption))

end

end Git.Reference

end MergeNotes
