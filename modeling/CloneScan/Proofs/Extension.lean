import CloneScan.Path
import Mathlib.Data.List.TakeDrop
import Mathlib.Data.List.TakeWhile

/-! The extension of a name, without the search for it: what a name ends in from its last dot on, as long
as that dot does not only follow other dots. -/
namespace CloneScan.Path

/-- The end of a name that tells the kind of a file: from the last dot on, if anything but dots stands
before that, and nothing otherwise. -/
inductive HasExtension : List Char → List Char → Prop
  | dotted (kind : '.' ∉ after) (named : ∃ c ∈ stem, c ≠ '.') :
      HasExtension (stem ++ '.' :: after) ('.' :: after)
  | bare (dots : ∀ stem after, file = stem ++ '.' :: after → ∀ c ∈ stem, c = '.') :
      HasExtension file []

theorem dropWhile_dotted (named : ∃ c ∈ stem, c ≠ '.') (after : List Char) :
    (stem ++ '.' :: after).dropWhile (· == '.') = stem.dropWhile (· == '.') ++ '.' :: after := by
  have filled : stem.dropWhile (· == '.') ≠ [] := by simpa using named
  simp [List.dropWhile_append, filled]

theorem extensionOf_dotted (kind : '.' ∉ after) (named : ∃ c ∈ stem, c ≠ '.') :
    extensionOf (stem ++ '.' :: after) = '.' :: after := by
  have plain : ∀ c ∈ after.reverse, (c != '.') = true := by
    intro c member
    have other : c ≠ '.' := by
      rintro rfl
      exact kind (List.mem_reverse.mp member)
    simpa using other
  simp [extensionOf, dropWhile_dotted named, List.span_eq_takeWhile_dropWhile,
    List.takeWhile_append_of_pos plain, List.dropWhile_append_of_pos plain]

theorem extensionOf_bare (plain : '.' ∉ file.dropWhile (· == '.')) : extensionOf file = [] := by
  have kept : (file.dropWhile (· == '.')).reverse.dropWhile (· != '.') = [] := by
    apply List.dropWhile_eq_nil_iff.mpr
    intro c member
    have other : c ≠ '.' := by
      rintro rfl
      exact plain (List.mem_reverse.mp member)
    simpa using other
  simp [extensionOf, List.span_eq_takeWhile_dropWhile, kept]

/-- A dot behind the dots in front of a name: the last one starts its extension. -/
theorem split_of_dot (dot : '.' ∈ file.dropWhile (· == '.')) :
    ∃ stem after, file = stem ++ '.' :: after ∧ '.' ∉ after ∧ ∃ c ∈ stem, c ≠ '.' := by
  obtain ⟨after, before, split, kind⟩ := List.eq_append_cons_of_mem (List.mem_reverse.mpr dot)
  have core : file.dropWhile (· == '.') = before.reverse ++ '.' :: after.reverse := by
    simpa using congrArg List.reverse split
  refine ⟨file.takeWhile (· == '.') ++ before.reverse, after.reverse, ?_, by simpa using kind, ?_⟩
  · have whole := List.takeWhile_append_dropWhile (p := (· == '.')) (l := file)
    rw [core] at whole
    simpa using whole.symm
  · have first := List.head?_dropWhile_not (· == '.') file
    cases stem : before.reverse with
    | nil => simp [core, stem] at first
    | cons c rest => exact ⟨c, by simp, by simpa [core, stem] using first⟩

theorem hasExtension_extensionOf (file : List Char) : HasExtension file (extensionOf file) := by
  by_cases dot : '.' ∈ file.dropWhile (· == '.')
  · obtain ⟨stem, after, rfl, kind, named⟩ := split_of_dot dot
    rw [extensionOf_dotted kind named]
    exact .dotted kind named
  · rw [extensionOf_bare dot]
    apply HasExtension.bare
    rintro stem after rfl
    by_contra named
    apply dot
    simp [dropWhile_dotted (by simpa using named)]

/-- Every name has one extension. -/
theorem hasExtension_iff : HasExtension file ext ↔ extensionOf file = ext := by
  constructor
  · rintro (⟨kind, named⟩ | dots)
    · exact extensionOf_dotted kind named
    · apply extensionOf_bare
      intro dot
      obtain ⟨stem, after, split, _, c, member, other⟩ := split_of_dot dot
      exact other (dots stem after split c member)
  · rintro rfl
    exact hasExtension_extensionOf file

end CloneScan.Path
