import MergeNotes.Extraction
import MergeNotes.Proofs.Chars

namespace MergeNotes.Extraction.Fields

variable {fields : List (List Char)} {r : Reading} {line description : List Char}

def IsOnLine (fields : List (List Char)) (i : Nat) : Prop := ∃ f, fields[i]? = some f ∧ '\n' ∉ f

/-- What has been read comes from single lines, the names of the fields that have parts included. -/
structure Reading.IsOfLines (fields : List (List Char)) (r : Reading) : Prop where
  current : ∀ i, r.current = some i → IsOnLine fields i
  named : ∀ (i : Nat) (ps : List (List Char)), r.parts[i]? = some ps → ps ≠ [] → IsOnLine fields i
  lines : ∀ (i : Nat) (ps : List (List Char)), r.parts[i]? = some ps → ∀ p ∈ ps, '\n' ∉ p

theorem Reading.isOfLines_start (fields : List (List Char)) :
    (Reading.start fields).IsOfLines fields := by
  have hparts (i : Nat) (ps : List (List Char))
      (hps : (Reading.start fields).parts[i]? = some ps) : ps = [] := by
    simp only [Reading.start, List.getElem?_map, Option.map_eq_some_iff] at hps
    obtain ⟨_, -, rfl⟩ := hps
    rfl
  refine ⟨by nofun, fun i ps hps hne => absurd (hparts i ps hps) hne, fun i ps hps p hp => ?_⟩
  rw [hparts i ps hps] at hp
  cases hp

theorem Reading.IsOfLines.set (h : r.IsOfLines fields) {i : Nat} (hi : IsOnLine fields i)
    {value : List Char} (hvalue : '\n' ∉ value) :
    Reading.IsOfLines fields ⟨some i, r.parts.set i [value]⟩ where
  current j hj := by
    cases hj
    exact hi
  named j ps hps hne := by
    rw [List.getElem?_set] at hps
    split_ifs at hps with hj
    · exact hj ▸ hi
    · exact h.named j ps hps hne
  lines j ps hps p hp := by
    rw [List.getElem?_set] at hps
    split_ifs at hps with hj
    · cases hps
      rwa [List.mem_singleton.1 hp]
    · exact h.lines j ps hps p hp

theorem Reading.IsOfLines.modify (h : r.IsOfLines fields) {i : Nat} (hi : IsOnLine fields i)
    {part : List Char} (hpart : '\n' ∉ part) :
    Reading.IsOfLines fields ⟨some i, r.parts.modify i (· ++ [part])⟩ where
  current j hj := by
    cases hj
    exact hi
  named j ps hps hne := by
    obtain ⟨qs, hqs, hps⟩ := Option.map_eq_some_iff.1 (List.getElem?_modify _ _ _ _ ▸ hps)
    split_ifs at hps with hj
    · exact hj ▸ hi
    · exact h.named j ps (hps ▸ hqs) hne
  lines j ps hps p hp := by
    obtain ⟨qs, hqs, hps⟩ := Option.map_eq_some_iff.1 (List.getElem?_modify _ _ _ _ ▸ hps)
    split_ifs at hps with hj
    · rw [← hps, List.mem_append, List.mem_singleton] at hp
      rcases hp with hp | rfl
      · exact h.lines j qs hqs p hp
      · exact hpart
    · exact h.lines j ps (hps ▸ hqs) p hp

theorem Reading.IsOfLines.step (h : r.IsOfLines fields) (hline : '\n' ∉ line) :
    (r.step fields line).IsOfLines fields := by
  unfold Reading.step
  cases hcut : Chars.cutAt? [':'] line with
  | some cut =>
    obtain ⟨name, value⟩ := cut
    rw [← Chars.append_of_cutAt? hcut, List.mem_append, List.mem_append] at hline
    push Not at hline
    obtain ⟨⟨hname, -⟩, hvalue⟩ := hline
    dsimp only
    cases hi : fields.idxOf? name with
    | none => exact ⟨by nofun, h.named, h.lines⟩
    | some i =>
      obtain ⟨hlt, hget, -⟩ := List.idxOf?_eq_some_iff.1 hi
      have hon : IsOnLine fields i := ⟨name, List.getElem?_eq_some_iff.2 ⟨hlt, hget⟩, hname⟩
      exact h.set hon fun hmem => hvalue (Chars.mem_of_mem_trim hmem)
  | none =>
    dsimp only
    cases hi : r.current with
    | none => exact h
    | some i => exact h.modify (h.current i hi) fun hmem => hline (Chars.mem_of_mem_trim hmem)

theorem isOfLines_read (fields : List (List Char)) (description : List Char) :
    (read fields description).IsOfLines fields := by
  have hlines : ∀ line ∈ Chars.pieces (· == '\n') description, '\n' ∉ line := by
    intro line hline hmem
    simpa using Chars.mem_pieces hline _ hmem
  have hrun (ls : List (List Char)) (hls : ∀ line ∈ ls, '\n' ∉ line) (r : Reading)
      (h : r.IsOfLines fields) : (ls.foldl (Reading.step fields) r).IsOfLines fields := by
    induction ls generalizing r with
    | nil => exact h
    | cons line ls ih =>
      rw [List.forall_mem_cons] at hls
      exact ih hls.2 _ (h.step hls.1)
  exact hrun _ hlines _ (Reading.isOfLines_start fields)

theorem render?_eq_some {field text : List Char} {parts : List (List Char)}
    (h : render? field parts = some text) :
    parts ≠ [] ∧
      text = field ++ [':', ' '] ++ [';', ' '].intercalate (parts.filter (!·.isEmpty)) := by
  unfold render? at h
  dsimp only at h
  split_ifs at h with hvalue
  refine ⟨?_, (Option.some.inj h).symm⟩
  rintro rfl
  exact hvalue rfl

theorem extract?_eq_some {text : List Char} (h : extract? fields description = some text) :
    ∃ rendered ≠ [], text = [' ', '|', ' '].intercalate rendered ∧
      ∀ x ∈ rendered, ∃ (i : Nat) (f : List Char) (ps : List (List Char)), fields[i]? = some f ∧
        (read fields description).parts[i]? = some ps ∧ render? f ps = some x := by
  unfold extract? at h
  dsimp only at h
  split_ifs at h with hrendered
  refine ⟨_, by simpa using hrendered, (Option.some.inj h).symm, fun x hx => ?_⟩
  obtain ⟨⟨f, ps⟩, hmem, hx⟩ := List.mem_filterMap.1 hx
  obtain ⟨i, hi⟩ := List.mem_iff_getElem?.1 hmem
  obtain ⟨hf, hps⟩ := List.getElem?_zip_eq_some.1 hi
  exact ⟨i, f, ps, hf, hps, hx⟩

/-- Only names that stand on a line are printed, and only parts of single lines. -/
theorem newline_notMem_extract? {text : List Char}
    (h : extract? fields description = some text) : '\n' ∉ text := by
  obtain ⟨rendered, -, rfl, hrendered⟩ := extract?_eq_some h
  intro hmem
  rcases Chars.mem_intercalate hmem with hmem | ⟨x, hx, hmem⟩
  · revert hmem
    decide
  obtain ⟨i, f, ps, hf, hps, hx⟩ := hrendered x hx
  obtain ⟨hne, rfl⟩ := render?_eq_some hx
  have hread := isOfLines_read fields description
  obtain ⟨_, hf', hname⟩ := hread.named i ps hps hne
  rw [hf] at hf'
  cases hf'
  rw [List.mem_append, List.mem_append] at hmem
  rcases hmem with (hmem | hmem) | hmem
  · exact hname hmem
  · revert hmem
    decide
  · rcases Chars.mem_intercalate hmem with hmem | ⟨p, hp, hmem⟩
    · revert hmem
      decide
    · exact hread.lines i ps hps p (List.mem_filter.1 hp).1 hmem

theorem colon_mem_extract? {text : List Char}
    (h : extract? fields description = some text) : ':' ∈ text := by
  obtain ⟨rendered, hne, rfl, hrendered⟩ := extract?_eq_some h
  obtain ⟨x, xs, rfl⟩ := List.exists_cons_of_ne_nil hne
  obtain ⟨i, f, ps, -, -, hx⟩ := hrendered x List.mem_cons_self
  obtain ⟨-, hx⟩ := render?_eq_some hx
  exact Chars.mem_intercalate_of_mem _ List.mem_cons_self (by simp [hx])

theorem filterMap_render?_empty (fields : List (List Char)) :
    (fields.zip (fields.map fun _ => [])).filterMap (fun (f, ps) => render? f ps) = [] := by
  induction fields with
  | nil => rfl
  | cons g gs ih => simpa [render?] using ih

theorem filterMap_render?_set {f : List Char} {i : Nat} (hi : fields.idxOf? f = some i)
    (ps : List (List Char)) :
    (fields.zip ((fields.map fun _ => []).set i ps)).filterMap (fun (f, ps) => render? f ps) =
      (render? f ps).toList := by
  induction fields generalizing i with
  | nil => cases hi
  | cons g gs ih =>
    rw [List.idxOf?_cons] at hi
    split_ifs at hi with hg
    · cases hi
      rw [← eq_of_beq hg, List.map_cons, List.set_cons_zero, List.zip_cons_cons,
        List.filterMap_cons, filterMap_render?_empty gs]
      dsimp only
      cases render? g ps <;> rfl
    · obtain ⟨j, hj, rfl⟩ := Option.map_eq_some_iff.1 hi
      simpa [render?] using ih hj

theorem read_field {f v : List Char} {i : Nat} (hi : fields.idxOf? f = some i) (hcolon : ':' ∉ f)
    (hf : '\n' ∉ f) (hv : '\n' ∉ v) :
    (read fields (f ++ ':' :: ' ' :: v)).parts = (fields.map fun _ => []).set i [Chars.trim v] := by
  have hline : Chars.pieces (· == '\n') (f ++ ':' :: ' ' :: v) = [f ++ ':' :: ' ' :: v] := by
    refine Chars.pieces_of_forall fun d hd => ?_
    rw [beq_eq_false_iff_ne]
    rintro rfl
    simp [hf, hv] at hd
  have hvalue : Chars.trim (' ' :: v) = Chars.trim v := Chars.trim_cons (by decide) v
  rw [read, hline, List.foldl_cons, List.foldl_nil, Reading.step, Chars.cutAt?_of_notMem hcolon]
  simp only [hi, hvalue]
  rfl

theorem extract?_field {f v : List Char} (hmem : f ∈ fields) (hcolon : ':' ∉ f) (hf : '\n' ∉ f)
    (hne : v ≠ []) (htrim : Chars.trim v = v) (hv : '\n' ∉ v) :
    extract? fields (f ++ ':' :: ' ' :: v) = some (f ++ ':' :: ' ' :: v) := by
  obtain ⟨i, hi⟩ : ∃ i, fields.idxOf? f = some i := by
    rw [← Option.isSome_iff_exists, Option.isSome_iff_ne_none, ne_eq, List.idxOf?_eq_none_iff]
    exact not_not.2 hmem
  have hprint : render? f [v] = some (f ++ ':' :: ' ' :: v) := by
    simp [render?, hne]
  unfold extract?
  rw [read_field hi hcolon hf hv, filterMap_render?_set hi, htrim, hprint]
  simp

end MergeNotes.Extraction.Fields
