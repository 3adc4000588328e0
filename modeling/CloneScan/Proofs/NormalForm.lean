import CloneScan.Proofs.Marks
import CloneScan.Proofs.Spacing
import Mathlib.Data.Set.Operations

/-! Normal forms. A text is its own normal form exactly if it holds no comment and no layout but single
spaces between words, and every normal form is such a text; so normalising twice is normalising once.
Texts without comment marks have the same normal form exactly if they have the same words. -/
namespace CloneScan.Source

open Text

/-- No comment, and no blanks but single spaces between visible characters. -/
structure IsNormal (s : List Char) : Prop where
  lineMark : ¬ ['/', '/'] <:+: s
  comment : ¬ HoldsComment s
  spaces : ∀ c ∈ s, isBlank c = true → c = ' '
  single : ¬ [' ', ' '] <:+: s
  first : s.head? ≠ some ' '
  last : s.getLast? ≠ some ' '

theorem HoldsComment.mono (holds : HoldsComment s) (inside : s <:+: t) : HoldsComment t := by
  obtain ⟨before, inner, after, rfl⟩ := holds
  obtain ⟨a, b, rfl⟩ := inside
  exact ⟨a ++ before, inner, after ++ b, by simp⟩

/-- Marks hold no blanks, so no change of blanks makes one. -/
theorem lineMark_of_respaced (respaced : Respaced alike s t) (mark : ['/', '/'] <:+: t) :
    ['/', '/'] <:+: s := by
  obtain ⟨x, y, rfl⟩ := mark
  obtain ⟨u, v, rfl, behind⟩ := respaced.split rfl (List.append_assoc x _ y)
  obtain ⟨w, rfl, _⟩ := behind.cons_right rfl
  exact ⟨u, w, by simp⟩

theorem holdsComment_of_respaced (respaced : Respaced alike s t) (holds : HoldsComment t) :
    HoldsComment s := by
  obtain ⟨before, inner, after, whole⟩ := holds
  obtain ⟨u, v, rfl, opened⟩ := respaced.split rfl whole
  obtain ⟨v, rfl, body⟩ := opened.cons_right rfl
  obtain ⟨i, w, rfl, closed⟩ := body.split rfl rfl
  obtain ⟨w, rfl, _⟩ := closed.cons_right rfl
  exact ⟨u, i, w, rfl⟩

theorem isNormal_normalForm (s : List Char) : IsNormal (normalForm s) := by
  have respaced : Respaced Anyhow (trim (dropComments s)) (normalForm s) := respaced_trim_collapse _
  have inside := trim_infix (dropComments s)
  have collapsed := trim_infix (collapse false (dropComments s))
  exact {
    lineMark := fun mark =>
      no_lineMark_dropComments s ((lineMark_of_respaced respaced mark).trans inside)
    comment := fun holds =>
      not_holdsComment_dropComments s ((holdsComment_of_respaced respaced holds).mono inside)
    spaces := fun c member => eq_space_of_mem_collapse (collapsed.subset member)
    single := fun double => no_doubleSpace_collapse false _ (double.trans collapsed)
    first := fun start => by
      obtain ⟨rest, split⟩ := List.head?_eq_some_iff.mp start
      exact absurd (trim_first_visible split) (by decide)
    last := fun final => by
      obtain ⟨rest, split⟩ := List.getLast?_eq_some_iff.mp final
      exact absurd (trim_last_visible split) (by decide) }

theorem normalForm_of_isNormal (normal : IsNormal s) : normalForm s = s := by
  have visible (c : Char) (member : c ∈ s) (other : c ≠ ' ') : isBlank c = false := by
    by_contra blank
    exact other (normal.spaces c member (by simpa using blank))
  rw [normalForm, dropComments_of_uncommented normal.lineMark normal.comment,
    collapse_eq_self normal.spaces normal.single (by simp)]
  refine trim_eq_self (fun c start => ?_) (fun c final => ?_)
  · exact visible c (List.mem_of_head? start) fun space => normal.first (space ▸ start)
  · exact visible c (List.mem_of_getLast? final) fun space => normal.last (space ▸ final)

theorem normalize_eq_self_iff (code : String) : normalize code = code ↔ IsNormal code.toList := by
  rw [normalize, ← String.toList_inj, String.toList_ofList]
  refine ⟨fun same => ?_, normalForm_of_isNormal⟩
  rw [← same]
  exact isNormal_normalForm _

theorem isNormal_normalize (code : String) : IsNormal (normalize code).toList := by
  rw [normalize, String.toList_ofList]
  exact isNormal_normalForm _

/-- Every normal form is normal, and the normal texts are those that normalising leaves alone; so a
second time changes nothing, and the normal forms are the normal texts and no others. -/
theorem normalize_retraction :
    (∀ code, IsNormal (normalize code).toList) ∧
      (∀ code, normalize code = code ↔ IsNormal code.toList) ∧
      (∀ code, normalize (normalize code) = normalize code) ∧
      Set.range normalize = {code | IsNormal code.toList} := by
  refine ⟨isNormal_normalize, normalize_eq_self_iff, fun code => ?_, Set.ext fun code => ?_⟩
  · exact (normalize_eq_self_iff _).mpr (isNormal_normalize code)
  · constructor
    · rintro ⟨other, rfl⟩
      exact isNormal_normalize other
    · exact fun normal => ⟨code, (normalize_eq_self_iff code).mpr normal⟩

structure Unmarked (s : List Char) : Prop where
  line : ¬ ['/', '/'] <:+: s
  block : ¬ ['/', '*'] <:+: s

theorem words_normalForm (s : List Char) : words (normalForm s) = words (dropComments s) := by
  rw [normalForm_eq, words_unwords_words]

theorem dropComments_of_unmarked (unmarked : Unmarked s) : dropComments s = s := by
  refine dropComments_of_uncommented unmarked.line ?_
  rintro ⟨before, inner, after, rfl⟩
  exact unmarked.block ⟨before, inner ++ '*' :: '/' :: after, by simp⟩

/-- Without comment marks nothing but layout is forgotten: a word that is changed, inserted, deleted
or split changes the normal form. -/
theorem normalize_eq_iff_words_eq (left : Unmarked a.toList) (right : Unmarked b.toList) :
    normalize a = normalize b ↔ words a.toList = words b.toList := by
  rw [normalize, normalize, String.ofList_inj]
  constructor
  · intro same
    have kept := congrArg words same
    rwa [words_normalForm, words_normalForm, dropComments_of_unmarked left,
      dropComments_of_unmarked right] at kept
  · intro same
    rw [normalForm_eq, normalForm_eq, dropComments_of_unmarked left, dropComments_of_unmarked right,
      same]

/-- Halves of marks with other blanks between them, and one word that is split. -/
theorem halves_told_apart :
    let a := "a / * b\t*\n/ cd"
    let b := " a /  * b * / cd\r\n"
    let split := "a / * b * / c\u00A0d"
    Unmarked a.toList ∧ Unmarked b.toList ∧ Unmarked split.toList ∧
      normalize a = normalize b ∧ normalize a ≠ normalize split := by
  intro a b split
  have first : Unmarked a.toList := by constructor <;> simp [a, pair_infix_cons]
  have second : Unmarked b.toList := by constructor <;> simp [b, pair_infix_cons]
  have third : Unmarked split.toList := by constructor <;> simp [split, pair_infix_cons]
  refine ⟨first, second, third, (normalize_eq_iff_words_eq first second).mpr (by decide), ?_⟩
  exact mt (normalize_eq_iff_words_eq first third).mp (by decide)

end CloneScan.Source
