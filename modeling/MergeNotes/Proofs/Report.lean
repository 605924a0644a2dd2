import MergeNotes.Proofs.JsonWriting
import MergeNotes.Update.Report

namespace MergeNotes.Update.Outcome

def reportNames : List String :=
  ["schema_version", "appended", "entry", "committed", "commit_sha", "pushed", "branch",
    "skipped_reason"]

/-- What the members of an object say is what an outcome says: each string that it has is there with
its characters, each that it lacks is not, and nothing else is. -/
structure Says (named : List (String × Json)) (o : Outcome) : Prop where
  nodup : (named.map Prod.fst).Nodup
  known : ∀ m ∈ named, m.1 ∈ reportNames
  schemaVersion :
    named.lookup "schema_version" = some (.number ⟨false, o.schemaVersion.toNat, 0⟩ true)
  appended : named.lookup "appended" = some (.bool o.appended)
  committed : named.lookup "committed" = some (.bool o.committed)
  pushed : named.lookup "pushed" = some (.bool o.pushed)
  entry : Option.Rel Json.IsString o.entry (named.lookup "entry")
  commitSha : Option.Rel Json.IsString o.commitSha (named.lookup "commit_sha")
  branch : Option.Rel Json.IsString o.branch (named.lookup "branch")
  skippedReason : Option.Rel Json.IsString o.skippedReason (named.lookup "skipped_reason")

@[simp] theorem lookup_optionalMember (key name : String) (value : Option String) :
    (optionalMember key value).lookup name =
      if name = key then value.map Json.ofString else none := by
  cases value with
  | none => simp [optionalMember]
  | some s =>
    by_cases h : name = key
    · simp [optionalMember, h]
    · simp [optionalMember, List.lookup_cons, h, beq_false_of_ne h]

theorem names_optionalMember (key : String) (value : Option String) :
    ((optionalMember key value).map Prod.fst).Sublist [key] := by
  cases value with
  | none => exact List.nil_sublist _
  | some s => exact List.Sublist.refl _

theorem names_members (o : Outcome) : (o.members.map Prod.fst).Sublist reportNames := by
  simp only [members, List.map_append, List.append_assoc]
  refine (List.Sublist.refl ["schema_version", "appended"]).append ?_
  refine (names_optionalMember "entry" o.entry).append ?_
  refine (List.Sublist.refl ["committed"]).append ?_
  refine (names_optionalMember "commit_sha" o.commitSha).append ?_
  refine (List.Sublist.refl ["pushed"]).append ?_
  exact (names_optionalMember "branch" o.branch).append
    (names_optionalMember "skipped_reason" o.skippedReason)

theorem rel_of_eq {value : Option String} {found : Option Json}
    (h : found = value.map Json.ofString) : Option.Rel Json.IsString value found := by
  subst h
  cases value with
  | none => exact .none
  | some s => exact .some (.mk (Json.spells_map_toNat s.toList))

theorem says_members (o : Outcome) : Says o.members o where
  nodup := o.names_members.nodup (by decide)
  known m hm := o.names_members.subset (List.mem_map_of_mem hm)
  schemaVersion := rfl
  appended := rfl
  committed := by simp [members, List.lookup_cons, List.lookup_append]
  pushed := by simp [members, List.lookup_cons, List.lookup_append]
  entry := rel_of_eq (by simp [members, List.lookup_cons, List.lookup_append])
  commitSha := rel_of_eq (by simp [members, List.lookup_cons, List.lookup_append])
  branch := rel_of_eq (by simp [members, List.lookup_cons, List.lookup_append])
  skippedReason := rel_of_eq (by simp [members, List.lookup_cons, List.lookup_append])

theorem value_of_mem_members {o : Outcome} {m : String × Json} (hm : m ∈ o.members) :
    (∃ n : UInt32, m.2 = Json.ofNat n.toNat) ∨ (∃ b, m.2 = .bool b) ∨
      ∃ s, m.2 = Json.ofString s := by
  have hoptional : ∀ {key : String} {value : Option String}, m ∈ optionalMember key value →
      ∃ s, m.2 = Json.ofString s := by
    intro key value h
    cases value with
    | none => cases h
    | some s => exact ⟨s, by rw [List.mem_singleton.1 h]⟩
  simp only [members, List.mem_append, List.mem_cons, List.not_mem_nil, or_false] at hm
  rcases hm with (((((((rfl | rfl) | h) | rfl) | h) | rfl) | h) | h)
  · exact .inl ⟨_, rfl⟩
  · exact .inr (.inl ⟨_, rfl⟩)
  · exact .inr (.inr (hoptional h))
  · exact .inr (.inl ⟨_, rfl⟩)
  · exact .inr (.inr (hoptional h))
  · exact .inr (.inl ⟨_, rfl⟩)
  · exact .inr (.inr (hoptional h))
  · exact .inr (.inr (hoptional h))

theorem members_ne_nil (o : Outcome) : o.members ≠ [] := by
  simp [members]

theorem isText_json (o : Outcome) : Json.IsText o.json o.json.write := by
  refine Json.isText_ofMembers o.members_ne_nil fun m hm => ?_
  obtain ⟨n, h⟩ | ⟨b, h⟩ | ⟨s, h⟩ := value_of_mem_members hm
  · rw [h]
    exact Json.isText_ofNat (n.toNat_lt.trans (by decide))
  · rw [h]
    exact Json.isText_bool b
  · rw [h]
    exact Json.isText_ofString s

theorem isShown_json (o : Outcome) : Json.IsShown o.json.write := by
  refine Json.isShown_ofMembers fun m hm => ?_
  obtain ⟨n, h⟩ | ⟨b, h⟩ | ⟨s, h⟩ := value_of_mem_members hm
  · rw [h]
    exact Json.isShown_ofNat n.toNat
  · rw [h]
    cases b <;> decide
  · rw [h]
    exact Json.isShown_writeString s.toList

/-- A report takes one line, is JSON, and is read back as an object that says what the outcome
says. -/
theorem read_text (o : Outcome) :
    '\n' ∉ o.text.toList ∧ '\r' ∉ o.text.toList ∧
      ∃ v named, Json.IsText v o.text.toList ∧ Json.ofText o.text.toList = (v, true) ∧
        Json.IsObject named v ∧ Says named o := by
  have htext : o.text.toList = o.json.write := String.toList_ofList
  rw [htext]
  have hshown := o.isShown_json
  refine ⟨fun h => absurd (hshown _ h) (by decide), fun h => absurd (hshown _ h) (by decide), ?_⟩
  have hread := Json.ofText_of_isDocument
    ⟨[], _, [], Json.isGap_nil, o.isText_json, Json.isGap_nil, (List.append_nil _).symm⟩
  exact ⟨o.json, o.members, o.isText_json, hread, Json.isObject_ofMembers _, o.says_members⟩

end MergeNotes.Update.Outcome
