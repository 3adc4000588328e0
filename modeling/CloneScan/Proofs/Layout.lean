import CloneScan.Proofs.Marks
import CloneScan.Proofs.Spacing
import Mathlib.Data.List.Forall2

/-! Layout is forgotten. Blanks belong to no mark, and only the end of a line ends a line comment; so a
change of blanks that keeps the ends of lines changes only blanks in what the removal of line comments
leaves, and of those the removal of block comments sees nothing. -/
namespace CloneScan.Source

open Text

/-- Of a gap behind a line mark the end of its line is kept. -/
theorem dropLineComments_inside_gap (gap : IsGap g) (ends : '\n' ∈ g) :
    ∃ kept, IsGap kept ∧
      ∀ s, dropLineComments true (g ++ s) = kept ++ dropLineComments false s := by
  obtain ⟨a, b, rfl, flat⟩ := List.eq_append_cons_of_mem ends
  have blanks : Blanks ('\n' :: b) := fun c member => gap.blanks c (List.mem_append_right a member)
  refine ⟨'\n' :: b, ⟨List.cons_ne_nil _ _, blanks⟩, fun s => ?_⟩
  have later := slash_not_mem_of_blanks (blanks_cons.mp blanks).2
  rw [List.append_assoc, dropLineComments_inside_append flat, List.cons_append, dropLineComments,
    if_pos rfl, dropLineComments_append later, List.cons_append]

theorem respaced_dropLineComments (respaced : Respaced SameBreak s t) (inside : Bool) :
    Respaced Anyhow (dropLineComments inside s) (dropLineComments inside t) := by
  induction respaced generalizing inside with
  | nil => exact .nil
  | @visible c s t visible rest ih =>
    have newline : c ≠ '\n' := by
      rintro rfl
      exact absurd visible (by decide)
    have next : (s.head? == some '/') = (t.head? == some '/') := by
      rw [Bool.eq_iff_iff, beq_iff_eq, beq_iff_eq]
      exact rest.head?_iff (by decide)
    rw [dropLineComments, dropLineComments, if_neg newline, if_neg newline, next]
    split
    · exact ih true
    · exact .visible visible (ih false)
  | @gap g h s t left right same rest ih =>
    cases inside with
    | false =>
      rw [dropLineComments_append (slash_not_mem_of_blanks left.blanks),
        dropLineComments_append (slash_not_mem_of_blanks right.blanks)]
      exact .gap left right trivial (ih false)
    | true =>
      -- behind a line mark a gap goes as well, unless the line ends in it
      by_cases ends : '\n' ∈ g
      · obtain ⟨k, kept, first⟩ := dropLineComments_inside_gap left ends
        obtain ⟨l, other, second⟩ := dropLineComments_inside_gap right (same.mp ends)
        rw [first, second]
        exact .gap kept other trivial (ih false)
      · rw [dropLineComments_inside_append ends, dropLineComments_inside_append (mt same.mpr ends)]
        exact ih true

/-- A comment is closed in both texts or in neither, and what follows differs in blanks only. -/
theorem respaced_afterClose? (respaced : Respaced alike s t) :
    Option.Rel (Respaced alike) (afterClose? s) (afterClose? t) := by
  induction respaced with
  | nil => exact .none
  | @visible c s t visible rest ih =>
    have next := rest.head?_iff (c := '/') (by decide)
    by_cases closing : c = '*' ∧ s.head? = some '/'
    · obtain ⟨rfl, slash⟩ := closing
      obtain ⟨s, rfl⟩ := List.head?_eq_some_iff.mp slash
      obtain ⟨t, rfl, behind⟩ := rest.cons_left (by decide)
      exact .some behind
    · have other : c = '*' → s.head? ≠ some '/' := fun star slash => closing ⟨star, slash⟩
      rwa [afterClose?_skip other, afterClose?_skip fun star => mt next.mpr (other star)]
  | gap left right _ _ ih =>
    have plain {k : List Char} (gap : IsGap k) : '*' ∉ k :=
      fun member => ne_star_of_blank (gap.blanks _ member) rfl
    rwa [afterClose?_append (plain left), afterClose?_append (plain right)]

/-- By induction on the length of the first text, since a comment is skipped as a whole. -/
theorem respaced_dropBlockComments (respaced : Respaced alike s t) :
    Respaced alike (dropBlockComments s) (dropBlockComments t) := by
  induction length : s.length using Nat.strong_induction_on generalizing s t with
  | _ n shorter =>
    cases respaced with
    | nil =>
      rw [dropBlockComments_nil]
      exact .nil
    | @visible c s t visible rest =>
      by_cases opening : c = '/' ∧ s.head? = some '*'
      · obtain ⟨rfl, star⟩ := opening
        obtain ⟨s, rfl⟩ := List.head?_eq_some_iff.mp star
        obtain ⟨t, rfl, body⟩ := rest.cons_left (by decide)
        have closed := respaced_afterClose? body
        cases first : afterClose? s with
        | none =>
          rw [first] at closed
          generalize second : afterClose? t = r at closed
          cases closed
          rw [dropBlockComments_unclosed first, dropBlockComments_unclosed second]
          exact .visible visible rest
        | some after =>
          rw [first] at closed
          generalize second : afterClose? t = r at closed
          cases closed with
          | some behind =>
            have bound := length_afterClose? first
            rw [dropBlockComments_closed first, dropBlockComments_closed second]
            refine shorter _ ?_ behind rfl
            simp only [List.length_cons] at length
            omega
      · have next := rest.head?_iff (c := '*') (by decide)
        rw [dropBlockComments_cons, dropBlockComments_cons]
        · refine .visible visible (shorter s.length ?_ rest rfl)
          simp only [List.length_cons] at length
          omega
        · rintro tail slash rfl
          exact opening ⟨slash, next.mpr rfl⟩
        · rintro tail slash rfl
          exact opening ⟨slash, rfl⟩
    | @gap g h s t left right same rest =>
      rw [dropBlockComments_append (slash_not_mem_of_blanks left.blanks),
        dropBlockComments_append (slash_not_mem_of_blanks right.blanks)]
      refine .gap left right same (shorter s.length ?_ rest rfl)
      have filled := List.length_pos_iff.mpr left.filled
      rw [List.length_append] at length
      omega

/-- Texts with the same words and the same ends of lines between them differ in their blanks only. -/
theorem respaced_of_words_eq (same : words s = words t) (breaks : breaks s = breaks t) :
    Respaced SameBreak (trim s) (trim t) := by
  by_cases hollow : Blanks s
  · rw [words_of_blanks hollow, eq_comm, words_eq_nil_iff] at same
    rw [trim_of_blanks hollow, trim_of_blanks same]
    exact .nil
  · have visible : ¬ Blanks t := by rwa [← words_eq_nil_iff, ← same, words_eq_nil_iff]
    refine (woven_trim hollow).respaced (same ▸ woven_trim visible) ?_
    rw [Text.breaks, Text.breaks, ← List.forall₂_eq_eq_eq, List.forall₂_map_left_iff,
      List.forall₂_map_right_iff] at breaks
    refine breaks.imp fun g h ends => ?_
    rw [SameBreak, ← List.contains_iff_mem, ← List.contains_iff_mem, ends]

theorem normalForm_eq_of_respaced (respaced : Respaced SameBreak (trim s) (trim t)) :
    normalForm s = normalForm t := by
  have dropped := respaced_dropBlockComments (respaced_dropLineComments respaced false)
  rw [← normalForm_trim s, ← normalForm_trim t, normalForm_eq, normalForm_eq]
  exact congrArg unwords dropped.words_eq

/-- Texts with the same words have one normal form and one fingerprint as soon as a line ends between
two neighbouring words of one text exactly if it does in the other. -/
theorem layout_forgotten {a b : String} (same : words a.toList = words b.toList)
    (ends : breaks a.toList = breaks b.toList) :
    normalize a = normalize b ∧ fingerprint a = fingerprint b := by
  have normal : normalize a = normalize b :=
    congrArg String.ofList (normalForm_eq_of_respaced (respaced_of_words_eq same ends))
  exact ⟨normal, fingerprint_congr normal⟩

/-- Two layouts of a text with comments of all kinds: closed on another line, up to the end of its line,
and never closed. -/
theorem commented_layout_forgotten :
    let a := "a  /* x\n*/ b // c\t d\n e /* f"
    let b := " a /*\tx \n\n */  b //  c d \n\te /* f  "
    words a.toList = words b.toList ∧ breaks a.toList = breaks b.toList ∧
      normalize a = normalize b ∧ fingerprint a = fingerprint b := by
  intro a b
  have same : words a.toList = words b.toList := by decide
  have ends : breaks a.toList = breaks b.toList := by decide
  exact ⟨same, ends, layout_forgotten same ends⟩

/-- A line that ends elsewhere is no layout: it ends a line comment. -/
example : normalForm ['a', '/', '/', ' ', 'b'] = ['a'] ∧
    normalForm ['a', '/', '/', '\n', 'b'] = ['a', ' ', 'b'] := by
  constructor <;> cbv

end CloneScan.Source
