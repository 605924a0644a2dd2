import Mathlib.Data.List.Basic
import MergeNotes.Path

namespace MergeNotes.Path

theorem ofSegment_injective : Function.Injective Component.ofSegment := by
  intro a b h
  simp only [Component.ofSegment] at h
  split_ifs at h <;> simp_all

theorem exists_segments_eq_cons_of_isAbsolute {p : Path} (h : p.isAbsolute = true) :
    ∃ gs, p.segments = [] :: gs := by
  obtain ⟨cs, hcs⟩ : ∃ cs, p.text.toList = '/' :: cs := by
    simpa [isAbsolute, List.head?_eq_some_iff] using h
  exact ⟨_, by simp [segments, hcs, Chars.pieces]; rfl⟩

/-- What a path starts with names nothing, so it is all the same to its names. -/
theorem filter_body (p : Path) :
    p.body.filter (!isFiller ·) = p.segments.filter (!isFiller ·) := by
  unfold body
  split
  · rename_i h
    unfold start? at h
    split at h
    · rename_i ha
      obtain ⟨gs, hgs⟩ := exists_segments_eq_cons_of_isAbsolute ha
      simp [hgs, isFiller]
    · split at h
      · rename_i hs
        obtain ⟨gs, hgs⟩ : ∃ gs, p.segments = ['.'] :: gs := by
          simpa [List.head?_eq_some_iff] using hs
        simp [hgs, isFiller]
      · cases h
  · rfl

/-- The components that lead somewhere. -/
def Component.isStep : Component → Bool
  | .up | .name _ => true
  | _ => false

theorem isStep_ofSegment (g : Segment) : (Component.ofSegment g).isStep = true := by
  unfold Component.ofSegment
  split_ifs <;> rfl

theorem filter_components (p : Path) :
    p.components.filter Component.isStep =
      (p.segments.filter (!isFiller ·)).map Component.ofSegment := by
  have hstart : p.start?.toList.filter Component.isStep = [] := by
    unfold start?
    split_ifs <;> rfl
  rw [components, List.filter_append, hstart, filter_body, List.nil_append, List.filter_eq_self]
  intro c hc
  obtain ⟨g, -, rfl⟩ := List.mem_map.1 hc
  exact isStep_ofSegment g

theorem isAbsolute_iff (p : Path) : p.isAbsolute = true ↔ .root ∈ p.components := by
  have hn : ∀ gs : List Segment, Component.root ∉ gs.map Component.ofSegment := by
    intro gs h
    obtain ⟨g, -, hg⟩ := List.mem_map.1 h
    have hstep := isStep_ofSegment g
    rw [hg] at hstep
    cases hstep
  simp only [components, List.mem_append, hn, or_false]
  unfold start?
  split_ifs <;> simp_all

end MergeNotes.Path
