import CloneScan.Proofs.Gaps

/-! Texts that differ in their blanks only. Both hold the same visible characters, and where one has
blanks the other has some too; which runs of blanks may stand for each other is left open, so that a
change of layout can keep the ends of lines or give them up. -/
namespace CloneScan.Text

/-- The same visible characters with gaps at the same places, each gap alike to the other's. -/
inductive Respaced (alike : List Char → List Char → Prop) : List Char → List Char → Prop
  | nil : Respaced alike [] []
  | visible (visible : isBlank c = false) (rest : Respaced alike s t) :
      Respaced alike (c :: s) (c :: t)
  | gap (left : IsGap g) (right : IsGap h) (same : alike g h) (rest : Respaced alike s t) :
      Respaced alike (g ++ s) (h ++ t)

/-- Both gaps end a line, or neither does. -/
def SameBreak (g h : List Char) : Prop := '\n' ∈ g ↔ '\n' ∈ h

def Anyhow (_ _ : List Char) : Prop := True

namespace Respaced

theorem symm (respaced : Respaced alike s t) : Respaced (flip alike) t s := by
  induction respaced with
  | nil => exact .nil
  | visible visible _ ih => exact .visible visible ih
  | gap left right same _ ih => exact .gap right left same ih

/-- A visible character stands in front of both texts or of neither. -/
theorem cons_left (respaced : Respaced alike (c :: s) t) (visible : isBlank c = false) :
    ∃ u, t = c :: u ∧ Respaced alike s u := by
  generalize whole : c :: s = r at respaced
  cases respaced with
  | nil => cases whole
  | visible _ rest =>
    cases whole
    exact ⟨_, rfl, rest⟩
  | gap left _ _ _ =>
    obtain ⟨d, g, rfl⟩ := List.exists_cons_of_ne_nil left.filled
    cases whole
    exact absurd (left.blanks c List.mem_cons_self) (by simp [visible])

theorem cons_right (respaced : Respaced alike s (c :: t)) (visible : isBlank c = false) :
    ∃ u, s = c :: u ∧ Respaced alike u t := by
  obtain ⟨u, same, rest⟩ := respaced.symm.cons_left visible
  exact ⟨u, same, rest.symm⟩

theorem head?_iff (respaced : Respaced alike s t) (visible : isBlank c = false) :
    s.head? = some c ↔ t.head? = some c := by
  constructor
  · intro first
    obtain ⟨u, rfl⟩ := List.head?_eq_some_iff.mp first
    obtain ⟨v, rfl, _⟩ := respaced.cons_left visible
    rfl
  · intro first
    obtain ⟨u, rfl⟩ := List.head?_eq_some_iff.mp first
    obtain ⟨v, rfl, _⟩ := respaced.cons_right visible
    rfl

/-- A visible character of the second text splits the first one as well. -/
theorem split (respaced : Respaced alike s t) (visible : isBlank c = false)
    (whole : t = x ++ c :: y) : ∃ u v, s = u ++ c :: v ∧ Respaced alike v y := by
  induction respaced generalizing x with
  | nil => simp at whole
  | @visible d s t _ rest ih =>
    cases x with
    | nil =>
      cases whole
      exact ⟨[], s, rfl, rest⟩
    | cons e x =>
      obtain ⟨u, v, rfl, behind⟩ := ih (List.cons.inj whole).2
      exact ⟨d :: u, v, rfl, behind⟩
  | @gap g h s t _ right _ rest ih =>
    rcases List.append_eq_append_iff.mp whole with ⟨z, rfl, later⟩ | ⟨z, blanks, later⟩
    · obtain ⟨u, v, rfl, behind⟩ := ih later
      exact ⟨g ++ u, v, by rw [List.append_assoc], behind⟩
    · cases z with
      | nil =>
        obtain ⟨u, v, rfl, behind⟩ := ih (x := []) later.symm
        exact ⟨g ++ u, v, by rw [List.append_assoc], behind⟩
      | cons e z =>
        cases later
        exact absurd (right.blanks c (by simp [blanks])) (by simp [visible])

/-- The words come out the same, also behind one text that stands before both. -/
theorem words_append (respaced : Respaced alike s t) (before : List Char) :
    words (before ++ s) = words (before ++ t) := by
  induction respaced generalizing before with
  | nil => rfl
  | @visible c s t _ _ ih => simpa using ih (before ++ [c])
  | gap left right _ _ ih =>
    rw [← List.append_assoc, ← List.append_assoc, words_append_gap left.filled left.blanks,
      words_append_gap right.filled right.blanks]
    exact congrArg _ (ih [])

theorem words_eq (respaced : Respaced alike s t) : words s = words t := respaced.words_append []

theorem append_left (visible : ∀ c ∈ w, isBlank c = false) (respaced : Respaced alike s t) :
    Respaced alike (w ++ s) (w ++ t) := by
  induction w with
  | nil => exact respaced
  | cons c w ih =>
    have parts := List.forall_mem_cons.mp visible
    exact .visible parts.1 (ih parts.2)

end Respaced

/-- Texts woven from the same words differ in their blanks only. -/
theorem Woven.respaced (left : Woven ws gs s) (right : Woven ws hs t)
    (same : List.Forall₂ alike gs hs) : Respaced alike s t := by
  induction left generalizing hs t with
  | last word =>
    cases right with
    | last => simpa using Respaced.append_left word.solid .nil
    | next _ _ rest => cases rest
  | next word gap rest ih =>
    cases right with
    | last => cases rest
    | next _ other behind =>
      obtain ⟨first, later⟩ := List.forall₂_cons.mp same
      rw [List.append_assoc, List.append_assoc]
      exact .append_left word.solid (.gap gap other first (ih behind later))

/-- The words of a text can be written with single spaces instead of its gaps. -/
theorem Woven.respaced_unwords (woven : Woven ws gs s) : Respaced Anyhow s (unwords ws) := by
  induction woven with
  | last word => simpa [unwords] using Respaced.append_left word.solid .nil
  | @next w g ws gs s word gap rest ih =>
    have more : ws ≠ [] := by cases rest <;> exact List.cons_ne_nil _ _
    rw [unwords_cons w more, List.append_assoc, List.append_assoc]
    exact .append_left word.solid (.gap gap ⟨List.cons_ne_nil _ _, blanks_space⟩ trivial ih)

theorem respaced_trim_collapse (s : List Char) :
    Respaced Anyhow (trim s) (trim (collapse false s)) := by
  rw [trim_collapse]
  by_cases hollow : Blanks s
  · rw [trim_of_blanks hollow, words_of_blanks hollow, unwords_nil]
    exact .nil
  · exact (woven_trim hollow).respaced_unwords

end CloneScan.Text
