import CloneScan.Proofs.Gaps
import CloneScan.Source.Fingerprint
import CloneScan.Source.Line

/-! Comments and layout. Blanks open and close no comment, so blanks at either end of a text pass
through both comment removals, and the normal form is that of the trimmed text. -/
namespace CloneScan.Source

open Text

theorem ne_slash_of_blank (blank : isBlank c = true) : c ≠ '/' := by
  rintro rfl
  exact absurd blank (by decide)

theorem ne_star_of_blank (blank : isBlank c = true) : c ≠ '*' := by
  rintro rfl
  exact absurd blank (by decide)

theorem slash_not_mem_of_blanks (blanks : Blanks s) : '/' ∉ s :=
  fun member => ne_slash_of_blank (blanks _ member) rfl

/-- A text without a line mark is kept, also in front of another one. -/
theorem dropLineComments_append_of_unmarked (unmarked : ¬ ['/', '/'] <:+: a)
    (apart : a.getLast? = some '/' → s.head? ≠ some '/') :
    dropLineComments false (a ++ s) = a ++ dropLineComments false s := by
  induction a with
  | nil => rfl
  | cons c a ih =>
    rw [pair_infix_cons, not_or] at unmarked
    have next : (c == '/' && (a ++ s).head? == some '/') = false := by
      cases a with
      | nil => simpa using apart
      | cons d a => simpa using unmarked.1
    have rest := ih unmarked.2 fun last => apart (by simp [List.getLast?_cons, last])
    rw [List.cons_append, dropLineComments, next, rest]
    split <;> rfl

theorem dropLineComments_append (plain : '/' ∉ a) (s : List Char) :
    dropLineComments false (a ++ s) = a ++ dropLineComments false s :=
  dropLineComments_append_of_unmarked (fun mark => plain (mark.subset List.mem_cons_self))
    fun last => absurd (List.mem_of_getLast? last) plain

@[simp] theorem dropBlockComments_nil : dropBlockComments [] = [] := by
  rw [dropBlockComments]

theorem dropBlockComments_closed (closed : afterClose? s = some after) :
    dropBlockComments ('/' :: '*' :: s) = dropBlockComments after := by
  rw [dropBlockComments]
  split <;> simp_all

theorem dropBlockComments_unclosed (unclosed : afterClose? s = none) :
    dropBlockComments ('/' :: '*' :: s) = '/' :: '*' :: s := by
  rw [dropBlockComments]
  split <;> simp_all

theorem dropBlockComments_cons (other : ∀ rest, c = '/' → s ≠ '*' :: rest) :
    dropBlockComments (c :: s) = c :: dropBlockComments s := by
  rw [dropBlockComments]
  exact fun rest same => other rest same

theorem dropBlockComments_append (plain : '/' ∉ a) (s : List Char) :
    dropBlockComments (a ++ s) = a ++ dropBlockComments s := by
  induction a with
  | nil => rfl
  | cons c a ih =>
    have parts : '/' ≠ c ∧ '/' ∉ a := by simpa using plain
    rw [List.cons_append, dropBlockComments_cons fun _ same => absurd same.symm parts.1, ih parts.2]
    rfl

theorem dropComments_append (plain : '/' ∉ a) (s : List Char) :
    dropComments (a ++ s) = a ++ dropComments s := by
  rw [dropComments, dropLineComments_append plain, dropBlockComments_append plain]
  rfl

theorem dropComments_of_plain (plain : '/' ∉ s) : dropComments s = s := by
  simpa [dropComments, dropLineComments, dropBlockComments] using dropComments_append plain []

/-- Blanks at the end are kept or go with the line comment they stand in. -/
theorem dropLineComments_append_blanks (blanks : Blanks b) (inside : Bool) (s : List Char) :
    ∃ kept, Blanks kept ∧ dropLineComments inside (s ++ b) = dropLineComments inside s ++ kept := by
  induction s generalizing inside with
  | nil =>
    induction b generalizing inside with
    | nil => exact ⟨[], blanks_nil, by simp [dropLineComments]⟩
    | cons c b ih =>
      have parts := blanks_cons.mp blanks
      have other : (c == '/') = false := beq_eq_false_iff_ne.mpr (ne_slash_of_blank parts.1)
      simp only [List.nil_append, dropLineComments, other, Bool.false_and, Bool.or_false] at ih ⊢
      split
      · obtain ⟨kept, hk, same⟩ := ih parts.2 false
        exact ⟨c :: kept, blanks_cons.mpr ⟨parts.1, hk⟩, by simp [same]⟩
      · cases inside with
        | true => exact ih parts.2 true
        | false =>
          obtain ⟨kept, hk, same⟩ := ih parts.2 false
          exact ⟨c :: kept, blanks_cons.mpr ⟨parts.1, hk⟩, by simp [same]⟩
  | cons c s ih =>
    have next : ((s ++ b).head? == some '/') = (s.head? == some '/') := by
      cases s with
      | cons => rfl
      | nil =>
        cases b with
        | nil => rfl
        | cons d b => simpa using ne_slash_of_blank (blanks_cons.mp blanks).1
    simp only [List.cons_append, dropLineComments, next]
    split
    · obtain ⟨kept, hk, same⟩ := ih false
      exact ⟨kept, hk, by rw [same]; rfl⟩
    · split
      · exact ih true
      · obtain ⟨kept, hk, same⟩ := ih false
        exact ⟨kept, hk, by rw [same]; rfl⟩

theorem afterClose?_skip (other : c = '*' → s.head? ≠ some '/') :
    afterClose? (c :: s) = afterClose? s := by
  rw [afterClose?]
  rintro rest rfl rfl
  exact other rfl rfl

theorem afterClose?_append (plain : '*' ∉ a) (s : List Char) : afterClose? (a ++ s) = afterClose? s := by
  induction a with
  | nil => rfl
  | cons c a ih =>
    have parts : '*' ≠ c ∧ '*' ∉ a := by simpa using plain
    rw [List.cons_append, afterClose?_skip fun star => absurd star.symm parts.1, ih parts.2]

theorem afterClose?_eq_some_iff : afterClose? s = some r ↔
    ∃ m, ¬ ['*', '/'] <:+: m ∧ s = m ++ '*' :: '/' :: r := by
  constructor
  · intro closed
    fun_induction afterClose? s with
    | case1 rest =>
      cases closed
      exact ⟨[], by simp, rfl⟩
    | case2 c rest still ih =>
      obtain ⟨m, first, rfl⟩ := ih closed
      refine ⟨c :: m, ?_, rfl⟩
      rw [pair_infix_cons]
      rintro (⟨rfl, slash⟩ | later)
      · obtain ⟨m, rfl⟩ := List.head?_eq_some_iff.mp slash
        exact still _ rfl rfl
      · exact first later
    | case3 => cases closed
  · rintro ⟨m, first, rfl⟩
    induction m with
    | nil => rfl
    | cons c m ih =>
      rw [pair_infix_cons, not_or] at first
      rw [List.cons_append, afterClose?_skip, ih first.2]
      rintro rfl slash
      cases m with
      | nil => simp at slash
      | cons d m => exact first.1 ⟨rfl, slash⟩

/-- A block comment is dropped up to its closing mark, whatever it begins or ends with. -/
theorem dropComments_blockComment (unclosed : ¬ ['*', '/'] <:+: a) (unmarked : ¬ ['/', '/'] <:+: a)
    (next : t.head? ≠ some '/') :
    dropComments ('/' :: '*' :: (a ++ '*' :: '/' :: t)) = dropComments t := by
  have closing : dropLineComments false ('*' :: '/' :: t) = '*' :: '/' :: dropLineComments false t := by
    simp [dropLineComments, next]
  have body : dropLineComments false ('*' :: (a ++ '*' :: '/' :: t)) =
      '*' :: (a ++ '*' :: '/' :: dropLineComments false t) := by
    rw [dropLineComments, dropLineComments_append_of_unmarked unmarked (by simp), closing]
    rfl
  have lines : dropLineComments false ('/' :: '*' :: (a ++ '*' :: '/' :: t)) =
      '/' :: '*' :: (a ++ '*' :: '/' :: dropLineComments false t) := by
    rw [dropLineComments, body]
    rfl
  rw [dropComments, lines, dropBlockComments_closed (afterClose?_eq_some_iff.mpr ⟨a, unclosed, rfl⟩)]
  rfl

theorem dropComments_block (noSlash : '/' ∉ s) :
    dropComments ('/' :: '*' :: (s ++ ['*', '/'])) = [] := by
  rw [dropComments_blockComment (fun mark => noSlash (mark.subset (by simp)))
    (fun mark => noSlash (mark.subset (by simp))) (by simp)]
  exact dropComments_of_plain List.not_mem_nil

theorem afterClose?_append_blanks (blanks : Blanks b) (s : List Char) :
    afterClose? (s ++ b) = (afterClose? s).map (· ++ b) := by
  fun_induction afterClose? s with
  | case1 rest => rfl
  | case2 c rest still ih =>
    rw [List.cons_append, afterClose?, ih]
    rintro tail rfl same
    cases rest with
    | cons d rest => cases same; exact still rest rfl rfl
    | nil =>
      rw [List.nil_append] at same
      exact slash_not_mem_of_blanks blanks (same ▸ List.mem_cons_self)
  | case3 =>
    have plain : '*' ∉ b := fun member => ne_star_of_blank (blanks _ member) rfl
    simpa [afterClose?] using afterClose?_append plain []

theorem dropBlockComments_append_blanks (blanks : Blanks b) (s : List Char) :
    dropBlockComments (s ++ b) = dropBlockComments s ++ b := by
  fun_induction dropBlockComments s with
  | case1 rest after closed ih =>
    have still : afterClose? (rest ++ b) = some (after ++ b) := by
      rw [afterClose?_append_blanks blanks, closed]
      rfl
    rw [List.cons_append, List.cons_append, dropBlockComments_closed still, ih]
  | case2 rest unclosed =>
    have still : afterClose? (rest ++ b) = none := by
      rw [afterClose?_append_blanks blanks, unclosed]
      rfl
    rw [List.cons_append, List.cons_append, dropBlockComments_unclosed still]
  | case3 c rest other ih =>
    rw [List.cons_append, dropBlockComments_cons, ih, List.cons_append]
    · intro tail slash same
      cases rest with
      | cons d rest => cases same; exact other rest slash rfl
      | nil =>
        rw [List.nil_append] at same
        exact ne_star_of_blank (blanks _ (same ▸ List.mem_cons_self)) rfl
  | case4 => simpa [dropBlockComments] using dropBlockComments_append (slash_not_mem_of_blanks blanks) []

theorem dropComments_append_blanks (blanks : Blanks b) (s : List Char) :
    ∃ kept, Blanks kept ∧ dropComments (s ++ b) = dropComments s ++ kept := by
  obtain ⟨kept, hk, same⟩ := dropLineComments_append_blanks blanks false s
  exact ⟨kept, hk, by rw [dropComments, same, dropBlockComments_append_blanks hk]; rfl⟩

/-- The normal form is the words outside comments. -/
theorem normalForm_eq (s : List Char) : normalForm s = unwords (words (dropComments s)) :=
  trim_collapse (dropComments s)

/-- The normal form sees nothing of the blanks around a text. -/
theorem normalForm_trim (s : List Char) : normalForm (trim s) = normalForm s := by
  obtain ⟨a, b, before, after, split⟩ := trim_split s
  obtain ⟨kept, hk, same⟩ := dropComments_append_blanks after (a ++ trim s)
  have whole : dropComments s = a ++ dropComments (trim s) ++ kept := by
    rw [← dropComments_append (slash_not_mem_of_blanks before), ← same, ← split]
  rw [normalForm_eq, normalForm_eq, whole, words_append_blanks hk, words_blanks_append before]

theorem unwords_eq_nil_iff (filled : ∀ w ∈ ws, w ≠ []) : unwords ws = [] ↔ ws = [] := by
  cases ws with
  | nil => simp
  | cons w ws => cases ws <;> simp [unwords, filled w List.mem_cons_self]

/-- A text without a normal form is comments and blanks throughout. -/
theorem normalForm_eq_nil_iff : normalForm s = [] ↔ Blanks (dropComments s) := by
  rw [normalForm_eq, unwords_eq_nil_iff fun _ => ne_nil_of_mem_words, words_eq_nil_iff]

/-- The first visible character of a text that opens no comment is kept. -/
theorem normalForm_cons_ne_nil (visible : isBlank c = false)
    (opening : c = '/' → s.head? ≠ some '/' ∧ s.head? ≠ some '*') : normalForm (c :: s) ≠ [] := by
  intro hollow
  have newline : c ≠ '\n' := by rintro rfl; exact absurd visible (by decide)
  have line : dropLineComments false (c :: s) = c :: dropLineComments false s := by
    rw [dropLineComments, if_neg newline, if_neg]
    simpa using fun slash => (opening slash).1
  have block : dropComments (c :: s) = c :: dropBlockComments (dropLineComments false s) := by
    rw [dropComments, line, dropBlockComments_cons]
    intro rest slash same
    cases s with
    | nil => simp [dropLineComments] at same
    | cons d s =>
      have next := opening slash
      simp only [List.head?_cons, ne_eq, Option.some.injEq] at next
      rw [dropLineComments] at same
      split at same
      · cases same
        contradiction
      · rw [if_neg (by simp [next.1])] at same
        exact next.2 (List.cons.inj same).1
  have blanks := normalForm_eq_nil_iff.mp hollow
  rw [block] at blanks
  simp [(blanks_cons.mp blanks).1] at visible

/-- A line of comments only is told by how it starts. -/
theorem isCommentLine_of_hollow (hollow : normalForm line = []) (visible : trim line ≠ []) :
    isCommentLine line = true := by
  obtain ⟨c, rest, split⟩ := List.exists_cons_of_ne_nil visible
  rw [← normalForm_trim, split] at hollow
  by_cases opening : c = '/' ∧ (rest.head? = some '/' ∨ rest.head? = some '*')
  · obtain ⟨rfl, next⟩ := opening
    cases rest with
    | nil => simp at next
    | cons d rest =>
      simp only [List.head?_cons, Option.some.injEq] at next
      rcases next with rfl | rfl <;> simp [isCommentLine, startsWithAny, split]
  · refine absurd hollow (normalForm_cons_ne_nil (trim_first_visible split) fun slash => ?_)
    exact ⟨fun line => opening ⟨slash, .inl line⟩, fun block => opening ⟨slash, .inr block⟩⟩

end CloneScan.Source
