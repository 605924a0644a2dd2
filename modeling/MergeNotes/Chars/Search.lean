namespace MergeNotes.Chars

/-- What stands before and after the first occurrence of `pat`. -/
def cutAt? (pat : List Char) : List Char → Option (List Char × List Char)
  | [] => if pat.isEmpty then some ([], []) else none
  | c :: cs =>
    if pat.isPrefixOf (c :: cs) then some ([], (c :: cs).drop pat.length)
    else (cutAt? pat cs).map fun (before, after) => (c :: before, after)

def occursIn (pat cs : List Char) : Bool := (cutAt? pat cs).isSome

def dropPrefix? (pat cs : List Char) : Option (List Char) :=
  if pat.isPrefixOf cs then some (cs.drop pat.length) else none

theorem length_of_cutAt? {pat cs before after : List Char}
    (h : cutAt? pat cs = some (before, after)) :
    before.length + pat.length + after.length = cs.length := by
  induction cs generalizing before with
  | nil =>
    simp only [cutAt?] at h
    split at h <;> simp_all
  | cons c cs ih =>
    simp only [cutAt?] at h
    split at h
    · rename_i hp
      obtain ⟨t, ht⟩ := List.isPrefixOf_iff_prefix.1 hp
      simp only [Option.some.injEq, Prod.mk.injEq] at h
      obtain ⟨rfl, rfl⟩ := h
      simp [← ht]
    · obtain ⟨⟨b, a⟩, hb, heq⟩ := Option.map_eq_some_iff.1 h
      simp only [Prod.mk.injEq] at heq
      obtain ⟨rfl, rfl⟩ := heq
      have := ih hb
      simp only [List.length_cons]
      omega

/-- Replaces the occurrences of `pat`, which is not empty, that do not overlap an earlier one. -/
def replaceFrom (pat new : List Char) (hpat : pat ≠ []) (cs : List Char) : List Char :=
  match _h : cutAt? pat cs with
  | none => cs
  | some (before, after) => before ++ new ++ replaceFrom pat new hpat after
termination_by cs.length
decreasing_by
  have := length_of_cutAt? _h
  have := List.length_pos_iff.2 hpat
  omega

/-- The empty pattern occurs before every character and at the end. -/
def replaceAll (pat new cs : List Char) : List Char :=
  if h : pat = [] then new ++ cs.flatMap fun c => c :: new
  else replaceFrom pat new h cs

end MergeNotes.Chars
