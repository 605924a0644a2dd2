import Mathlib.Data.List.Infix
import MergeNotes.Proofs.Fields

namespace MergeNotes.Extraction.Fields

variable {fields lines : List (List Char)} {r : Reading} {f line : List Char} {i : Nat}

/-- What follows the first colon of a line that has exactly the name before it. -/
def valueOf? (f line : List Char) : Option (List Char) :=
  (Chars.cutAt? [':'] line).bind fun (name, value) => if name = f then some value else none

/-- The lines up to the next one with a colon, trimmed. -/
def continuation (lines : List (List Char)) : List (List Char) :=
  (lines.takeWhile (':' ∉ ·)).map Chars.trim

def block? (f : List Char) : List (List Char) → Option (List (List Char))
  | [] => none
  | line :: rest => (valueOf? f line).map fun value => Chars.trim value :: continuation rest

def lastBlock? (f : List Char) (lines : List (List Char)) : Option (List (List Char)) :=
  (lines.tails.filterMap (block? f)).getLast?

/-- A name with the parts of its block that are not empty, if any are left. -/
def contribution? (f : List Char) (block : List (List Char)) : Option (List Char) :=
  let parts := block.filter (· ≠ [])
  if parts = [] then none else some (f ++ [':', ' '] ++ [';', ' '].intercalate parts)

/-- The contributions of the names in their order, each where it stands first. -/
def contributions (fields lines : List (List Char)) : List (List Char) :=
  fields.zipIdx.filterMap fun (f, i) =>
    if f ∈ fields.take i then none else (lastBlock? f lines).bind (contribution? f)

theorem lastBlock?_cons (f line : List Char) (lines : List (List Char)) :
    lastBlock? f (line :: lines) = (lastBlock? f lines).or (block? f (line :: lines)) := by
  rw [lastBlock?, List.tails_cons, List.filterMap_cons, lastBlock?]
  cases block? f (line :: lines) with
  | none => rw [Option.or_none]
  | some block =>
    -- the block at the head counts only if there is none further on
    dsimp only
    rw [List.getLast?_cons]
    cases (lines.tails.filterMap (block? f)).getLast? <;> rfl

theorem continuation_cons (line : List Char) (lines : List (List Char)) :
    continuation (line :: lines) =
      if ':' ∈ line then [] else Chars.trim line :: continuation lines := by
  rw [continuation, List.takeWhile_cons]
  split_ifs <;> simp_all [continuation]

theorem idxOf?_eq_some_of_notMem_take (hf : fields[i]? = some f) (hi : f ∉ fields.take i) :
    fields.idxOf? f = some i := by
  obtain ⟨hlt, hget⟩ := List.getElem?_eq_some_iff.1 hf
  refine List.idxOf?_eq_some_iff.2 ⟨hlt, hget, fun j hj heq => hi ?_⟩
  exact List.mem_take_iff_getElem.2 ⟨j, by omega, heq⟩

theorem idxOf?_ne_of_mem_take (hf : fields[i]? = some f) (hi : f ∈ fields.take i)
    (name : List Char) : fields.idxOf? name ≠ some i := by
  intro hname
  obtain ⟨hlt, hget, hfirst⟩ := List.idxOf?_eq_some_iff.1 hname
  obtain ⟨j, hj, heq⟩ := List.mem_take_iff_getElem.1 hi
  rw [List.getElem?_eq_getElem hlt, hget] at hf
  cases hf
  exact hfirst j (by omega) heq

theorem eq_of_idxOf?_eq_some {g : List Char} (hf : fields.idxOf? f = some i)
    (hg : fields.idxOf? g = some i) : g = f := by
  obtain ⟨_, hf, -⟩ := List.idxOf?_eq_some_iff.1 hf
  obtain ⟨_, hg, -⟩ := List.idxOf?_eq_some_iff.1 hg
  rw [← hf, ← hg]

/-- A line of a name begins a block at the first position of the name. -/
theorem Reading.step_of_value {value : List Char} (hi : fields.idxOf? f = some i)
    (h : valueOf? f line = some value) :
    r.step fields line = ⟨some i, r.parts.set i [Chars.trim value]⟩ := by
  obtain ⟨⟨name, rest⟩, hcut, hname⟩ := Option.bind_eq_some_iff.1 h
  dsimp only at hname
  split_ifs at hname with heq
  cases hname
  rw [Reading.step, hcut]
  simp only [heq, hi]

/-- A line that neither names a position nor continues it leaves it alone. -/
theorem Reading.step_frame
    (hname : ∀ name value, Chars.cutAt? [':'] line = some (name, value) →
      fields.idxOf? name ≠ some i)
    (hcurrent : ':' ∉ line → r.current ≠ some i) :
    (r.step fields line).current ≠ some i ∧ (r.step fields line).parts[i]? = r.parts[i]? := by
  rw [Reading.step]
  cases hcut : Chars.cutAt? [':'] line with
  | some cut =>
    obtain ⟨name, value⟩ := cut
    dsimp only
    cases hj : fields.idxOf? name with
    | none => exact ⟨by simp, rfl⟩
    | some j =>
      have hne : j ≠ i := fun h => hname name value hcut (h ▸ hj)
      exact ⟨by simpa using hne, List.getElem?_set_ne hne⟩
  | none =>
    have hother := hcurrent (Chars.cutAt?_eq_none_iff.1 hcut)
    dsimp only
    cases hj : r.current with
    | none => exact ⟨by simp [hj], rfl⟩
    | some j =>
      have hne : j ≠ i := by simpa [hj] using hother
      refine ⟨by simpa using hne, ?_⟩
      rw [List.getElem?_modify]
      simp [hne]

theorem Reading.step_of_current (h : ':' ∉ line) (hcurrent : r.current = some i) :
    r.step fields line = ⟨some i, r.parts.modify i (· ++ [Chars.trim line])⟩ := by
  rw [Reading.step, Chars.cutAt?_eq_none_iff.2 h, hcurrent]

theorem Reading.step_of_other (hi : fields.idxOf? f = some i) (hvalue : valueOf? f line = none)
    (hcurrent : ':' ∉ line → r.current ≠ some i) :
    (r.step fields line).current ≠ some i ∧ (r.step fields line).parts[i]? = r.parts[i]? := by
  refine step_frame (fun name value hcut hname => ?_) hcurrent
  rw [valueOf?, hcut, eq_of_idxOf?_eq_some hi hname] at hvalue
  simp at hvalue

/-- Lines read from any state: the first position of a name holds its last block or, if they have
none, what it held before with the lines that still continue it. -/
theorem Reading.getElem?_parts_foldl (hi : fields.idxOf? f = some i)
    (lines : List (List Char)) {r : Reading} {parts : List (List Char)}
    (hparts : r.parts[i]? = some parts) :
    (lines.foldl (Reading.step fields) r).parts[i]? = some ((lastBlock? f lines).getD
      (if r.current = some i then parts ++ continuation lines else parts)) := by
  induction lines generalizing r parts with
  | nil => simpa [lastBlock?, block?, continuation] using hparts
  | cons line lines ih =>
    rw [List.foldl_cons, lastBlock?_cons, block?, continuation_cons]
    cases hvalue : valueOf? f line with
    | some value =>
      obtain ⟨hlt, -⟩ := List.getElem?_eq_some_iff.1 hparts
      have hset : (r.parts.set i [Chars.trim value])[i]? = some [Chars.trim value] :=
        List.getElem?_set_self hlt
      rw [step_of_value hi hvalue, ih hset]
      cases lastBlock? f lines <;> simp
    | none =>
      rw [Option.map_none, Option.or_none]
      by_cases hgoes : ':' ∉ line ∧ r.current = some i
      · obtain ⟨hcolon, hcurrent⟩ := hgoes
        have hmodify : (r.parts.modify i (· ++ [Chars.trim line]))[i]? =
            some (parts ++ [Chars.trim line]) := by
          rw [List.getElem?_modify_eq, hparts]
          rfl
        rw [step_of_current hcolon hcurrent, ih hmodify]
        simp [hcolon, hcurrent]
      · -- the line ends the block of the name, or that block is not the one being read
        obtain ⟨hcurrent, hkept⟩ := step_of_other hi hvalue fun hcolon h => hgoes ⟨hcolon, h⟩
        rw [ih (hkept.trans hparts), if_neg hcurrent]
        by_cases hcolon : ':' ∈ line
        · simp [hcolon]
        · rw [if_neg fun h => hgoes ⟨hcolon, h⟩]

theorem Reading.getElem?_parts_foldl_of_repeated (hi : ∀ name, fields.idxOf? name ≠ some i)
    (lines : List (List Char)) {r : Reading} (hcurrent : r.current ≠ some i) :
    (lines.foldl (Reading.step fields) r).parts[i]? = r.parts[i]? := by
  induction lines generalizing r with
  | nil => rfl
  | cons line lines ih =>
    obtain ⟨hcurrent, hkept⟩ : (r.step fields line).current ≠ some i ∧
        (r.step fields line).parts[i]? = r.parts[i]? :=
      step_frame (fun name _ _ => hi name) fun _ => hcurrent
    rw [List.foldl_cons, ih hcurrent, hkept]

/-- What is read of a description, told from its lines alone. -/
theorem getElem?_parts_read (description : List Char) (hf : fields[i]? = some f) :
    (read fields description).parts[i]? = some (if f ∈ fields.take i then []
      else (lastBlock? f (Chars.pieces (· == '\n') description)).getD []) := by
  have hstart : (Reading.start fields).parts[i]? = some [] := by
    rw [Reading.start, List.getElem?_map, hf]
    rfl
  rw [read]
  split_ifs with hseen
  · have hrepeated := idxOf?_ne_of_mem_take hf hseen
    have hcurrent : (Reading.start fields).current ≠ some i := by simp [Reading.start]
    rw [Reading.getElem?_parts_foldl_of_repeated hrepeated _ hcurrent, hstart]
  · have hfirst := idxOf?_eq_some_of_notMem_take hf hseen
    rw [Reading.getElem?_parts_foldl hfirst _ hstart]
    rfl

theorem intercalate_ne_nil {sep : List Char} {xs : List (List Char)} (hne : xs ≠ [])
    (hxs : ∀ x ∈ xs, x ≠ []) : sep.intercalate xs ≠ [] := by
  obtain ⟨x, rest, rfl⟩ := List.exists_cons_of_ne_nil hne
  obtain ⟨c, hc⟩ := List.exists_mem_of_ne_nil x (hxs x List.mem_cons_self)
  exact List.ne_nil_of_mem (Chars.mem_intercalate_of_mem sep List.mem_cons_self hc)

theorem render?_eq_contribution? (f : List Char) (block : List (List Char)) :
    render? f block = contribution? f block := by
  have hparts : block.filter (!·.isEmpty) = block.filter (· ≠ []) := by
    congr 1
    funext part
    cases part <;> rfl
  rw [render?, contribution?, hparts]
  split_ifs with hvalue hnone hnone
  · rfl
  · refine absurd (List.isEmpty_iff.1 hvalue) (intercalate_ne_nil hnone fun part hpart => ?_)
    simpa using (List.mem_filter.1 hpart).2
  · rw [hnone] at hvalue
    exact absurd rfl hvalue
  · rfl

theorem zip_parts_read (fields : List (List Char)) (description : List Char) :
    fields.zip (read fields description).parts = fields.zipIdx.map fun (f, i) =>
      (f, if f ∈ fields.take i then []
        else (lastBlock? f (Chars.pieces (· == '\n') description)).getD []) := by
  refine List.ext_getElem? fun i => ?_
  rw [List.getElem?_map, List.getElem?_zipIdx, List.zip, List.getElem?_zipWith]
  cases hf : fields[i]? with
  | none => rfl
  | some f =>
    rw [getElem?_parts_read description hf]
    simp

theorem filterMap_zip_parts_read {give : List Char × List (List Char) → Option (List Char)}
    (hgive : ∀ f, give (f, []) = none) (fields : List (List Char)) (description : List Char) :
    (fields.zip (read fields description).parts).filterMap give =
      fields.zipIdx.filterMap fun (f, i) =>
        if f ∈ fields.take i then none
        else (lastBlock? f (Chars.pieces (· == '\n') description)).bind fun block =>
          give (f, block) := by
  rw [zip_parts_read, List.filterMap_map]
  congr 1
  funext x
  obtain ⟨f, i⟩ := x
  simp only [Function.comp_apply]
  split_ifs
  · exact hgive f
  · cases lastBlock? f (Chars.pieces (· == '\n') description) with
    | none => exact hgive f
    | some block => rfl

/-- The rule for fields takes out the contributions of their names, joined in the order of the
names, and nothing if there are none. -/
theorem extract?_eq_contributions (fields : List (List Char)) (description : List Char) :
    extract? fields description =
      let found := contributions fields (Chars.pieces (· == '\n') description)
      if found = [] then none else some ([' ', '|', ' '].intercalate found) := by
  rw [extract?, filterMap_zip_parts_read fun _ => rfl]
  simp only [render?_eq_contribution?, List.isEmpty_iff]
  rfl

/-- A later block that is empty takes away an earlier one, a line of another name ends a block, and
a name that is repeated counts once. -/
example :
    contributions ["a".toList, "b".toList, "a".toList]
      ["b: 1".toList, "a: 2".toList, "".toList, " x ".toList, "c: y".toList, "z".toList,
        "b:".toList] = ["a: 2; x".toList] := by
  decide +kernel

end MergeNotes.Extraction.Fields
