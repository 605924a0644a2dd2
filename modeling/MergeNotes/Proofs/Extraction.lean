import MergeNotes.Load
import MergeNotes.Proofs.Fields
import MergeNotes.Proofs.Summary

namespace MergeNotes.Config

open MergeNotes.Extraction

variable {c : Config} {rule : Option Rule} {description text : String}

theorem extract_eq (c : Config) (rule : Option Rule) (description : String) :
    c.extract rule description =
      if isBarred c.extraction.skipMarker description then none
      else byRule (rule.getD c.extraction.rule) c.extraction.fields description := by
  rfl

theorem toList_of_extract (h : c.extract rule description = some text) :
    Summary.extract? description.toList = some text.toList ∨
      Fields.extract? (c.extraction.fields.map String.toList)
        description.toList = some text.toList := by
  rw [extract_eq] at h
  split_ifs at h
  cases hrule : rule.getD c.extraction.rule with
  | summary =>
    rw [hrule, byRule] at h
    obtain ⟨cs, hcs, rfl⟩ := Option.map_eq_some_iff.1 h
    exact .inl (by rw [hcs, String.toList_ofList])
  | fields =>
    rw [hrule, byRule] at h
    obtain ⟨cs, hcs, rfl⟩ := Option.map_eq_some_iff.1 h
    exact .inr (by rw [hcs, String.toList_ofList])

/-- What is taken from a description is one line with a character that is no blank, so that there
are words to make an entry of. -/
theorem extract_isLine (h : c.extract rule description = some text) :
    (∃ ch ∈ text.toList, Chars.isBlank ch = false) ∧ '\n' ∉ text.toList ∧
      (Entry.ofText? text).isSome := by
  have hword : ∃ ch ∈ text.toList, Chars.isBlank ch = false := by
    rcases toList_of_extract h with h | h
    · exact Summary.exists_mem_extract? h
    · exact ⟨':', Fields.colon_mem_extract? h, by decide⟩
  have hline : '\n' ∉ text.toList := by
    rcases toList_of_extract h with h | h
    · exact Summary.newline_notMem_extract? h
    · exact Fields.newline_notMem_extract? h
  refine ⟨hword, hline, ?_⟩
  rw [Entry.ofText?, dif_neg (Chars.words_ne_nil_iff.2 hword), Option.isSome_some]

/-- A name with a line feed in it is passed over, and the value of the other goes on on the next
line. -/
theorem extract_isLine_continued :
    Config.extract { extraction := { fields := ["a\nb", "Sprint"] } } (some .fields)
        "x\r\na\nb: 1\nSprint: 4\r\n  of 5\n" = some "Sprint: 4; of 5" ∧
      (∃ ch ∈ "Sprint: 4; of 5".toList, Chars.isBlank ch = false) ∧
      '\n' ∉ "Sprint: 4; of 5".toList ∧ (Entry.ofText? "Sprint: 4; of 5").isSome := by
  have h : Config.extract { extraction := { fields := ["a\nb", "Sprint"] } } (some .fields)
      "x\r\na\nb: 1\nSprint: 4\r\n  of 5\n" = some "Sprint: 4; of 5" := by
    decide +kernel
  exact ⟨h, extract_isLine h⟩

theorem IsValid.extraction (h : c.IsValid) : c.extraction.fault? = none := by
  unfold IsValid fault? at h
  cases hpath : c.changelog.fault? <;> cases hfields : c.extraction.fault? <;> simp_all

theorem Extraction.fault?_eq_none_iff {e : Config.Extraction} :
    e.fault? = none ↔ (e.rule = .fields → e.fields ≠ []) ∧
      ∀ f ∈ e.fields, Text.isBlank f = false ∧ ':' ∉ f.toList := by
  unfold Extraction.fault?
  split_ifs with h
  · simp [h]
  · have hlist : e.rule = .fields → e.fields ≠ [] := not_and.1 h
    simpa [isUsableField] using fun _ => hlist

/-- For a configuration that passed its checks and the rule that reads fields, a line of a field is
taken out as it is, exactly unless the name of the field holds a line feed; and only if the checks
were made for another rule can there be no field at all, and then nothing is ever taken out. -/
theorem extract_field_iff (hvalid : c.IsValid) (hrule : rule.getD c.extraction.rule = .fields) :
    (c.extraction.fields = [] →
      c.extraction.rule ≠ .fields ∧ ∀ description, c.extract rule description = none) ∧
    ∀ f ∈ c.extraction.fields, ∀ v : String, v ≠ "" → Text.trim v = v → '\n' ∉ v.toList →
      isBarred c.extraction.skipMarker (f ++ ": " ++ v) = false →
      (c.extract rule (f ++ ": " ++ v) = some (f ++ ": " ++ v) ↔ '\n' ∉ f.toList) := by
  obtain ⟨hlist, hnames⟩ := Extraction.fault?_eq_none_iff.1 hvalid.extraction
  constructor
  · intro hnone
    refine ⟨fun h => hlist h hnone, fun description => ?_⟩
    rw [extract_eq, hrule, hnone]
    split_ifs <;> rfl
  · intro f hf v hne htrim hv hmarker
    have htext : (f ++ ": " ++ v).toList = f.toList ++ ':' :: ' ' :: v.toList := by simp
    constructor
    -- what is taken out is a line, so no name with a line feed is part of it
    · intro h hmem
      obtain ⟨-, hline, -⟩ := extract_isLine h
      exact hline (by simp [hmem])
    · intro hline
      have hvalue : Chars.trim v.toList = v.toList := by
        rw [← String.toList_ofList (l := Chars.trim v.toList)]
        exact congrArg String.toList htrim
      have hfield := Fields.extract?_field (List.mem_map_of_mem hf) (hnames f hf).2 hline
        (by simpa using hne) hvalue hv
      rw [extract_eq, hmarker, if_neg Bool.false_ne_true, hrule, byRule, htext, hfield,
        Option.map_some, ← htext, String.ofList_toList]

/-- Blanks around a name belong to it, and a value may hold colons. -/
theorem extract_field_iff_spaced :
    IsValid { extraction := { fields := [" Sprint ", "a\nb"] } } ∧
      Config.extract { extraction := { fields := [" Sprint ", "a\nb"] } } (some .fields)
        " Sprint : 4: x" = some " Sprint : 4: x" ∧
      Config.extract { extraction := { fields := [" Sprint ", "a\nb"] } } (some .fields)
        "a\nb: v" ≠ some "a\nb: v" := by
  have hvalid : IsValid { extraction := { fields := [" Sprint ", "a\nb"] } } := by
    unfold IsValid
    decide +kernel
  obtain ⟨-, hfields⟩ := extract_field_iff hvalid (rfl : (some Rule.fields).getD .summary = .fields)
  have hspaced := hfields " Sprint " (by decide) "4: x" (by decide) (by decide +kernel) (by decide)
    (by decide +kernel)
  have hbroken := hfields "a\nb" (by decide) "v" (by decide) (by decide +kernel) (by decide)
    (by decide +kernel)
  exact ⟨hvalid, hspaced.2 (by decide), fun h => absurd (hbroken.1 h) (by decide)⟩

/-- A configuration is accepted with a name that no line can begin with, and one is accepted without
names that the rule for fields can still be chosen for. Neither takes anything out. -/
theorem extract_field_lost :
    (Config.parse "[extraction]\nfields = [\"a\\nb\"]\n" =
        .ok { extraction := { fields := ["a\nb"] } } ∧
      Config.extract { extraction := { fields := ["a\nb"] } } (some .fields) "a\nb: v" = none) ∧
    Config.parse "[extraction]\nfields = []\n" = .ok { extraction := { fields := [] } } ∧
      Config.extract { extraction := { fields := [] } } (some .fields) "Sprint: 4" = none := by
  decide +kernel

end MergeNotes.Config
