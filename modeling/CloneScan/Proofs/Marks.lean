import CloneScan.Proofs.Comments

/-! Comment marks, told by what a text holds. No line comment is left after the first removal, no block
comment after the second, and removing a block comment joins no two characters to a mark: a slash
that is kept is followed by what followed it before, since no slash follows a slash any more. -/
namespace CloneScan.Source

open Text

/-- A block comment: its opening mark, and behind that its closing mark. -/
def HoldsComment (s : List Char) : Prop :=
  ∃ before inner after, s = before ++ '/' :: '*' :: (inner ++ '*' :: '/' :: after)

/-! Line comments. -/

theorem head?_dropLineComments (other : s.head? ≠ some '/') :
    (dropLineComments false s).head? = s.head? := by
  cases s with
  | nil => rfl
  | cons c s =>
    have plain : (c == '/') = false := by simpa using other
    rw [dropLineComments, plain]
    split <;> rfl

theorem no_lineMark_dropLineComments (inside : Bool) (s : List Char) :
    ¬ ['/', '/'] <:+: dropLineComments inside s := by
  induction s generalizing inside with
  | nil => simp [dropLineComments]
  | cons c s ih =>
    rw [dropLineComments]
    split
    · rename_i newline
      rw [pair_infix_cons, newline]
      simpa using ih false
    · split
      · exact ih true
      · rename_i kept
        have next : c = '/' → s.head? ≠ some '/' := by
          rintro rfl
          simp_all
        rw [pair_infix_cons]
        rintro (⟨slash, first⟩ | later)
        · rw [head?_dropLineComments (next slash)] at first
          exact next slash first
        · exact ih false later

/-- Every line is looked at on its own. -/
theorem dropLineComments_newline (inside : Bool) (a b : List Char) :
    dropLineComments inside (a ++ '\n' :: b) =
      dropLineComments inside a ++ '\n' :: dropLineComments false b := by
  induction a generalizing inside with
  | nil => simp [dropLineComments]
  | cons c a ih =>
    have next : ((a ++ '\n' :: b).head? == some '/') = (a.head? == some '/') := by
      cases a <;> rfl
    rw [List.cons_append, dropLineComments, dropLineComments, next, ih, ih]
    split
    · rfl
    · split <;> rfl

/-- Behind a line mark everything goes that is on its line. -/
theorem dropLineComments_inside_append (flat : '\n' ∉ a) (s : List Char) :
    dropLineComments true (a ++ s) = dropLineComments true s := by
  induction a with
  | nil => rfl
  | cons c a ih =>
    rw [List.mem_cons, not_or] at flat
    rw [List.cons_append, dropLineComments, if_neg (Ne.symm flat.1), ih flat.2]
    rfl

theorem dropLineComments_of_unmarked (unmarked : ¬ ['/', '/'] <:+: s) :
    dropLineComments false s = s := by
  simpa [dropLineComments] using
    dropLineComments_append_of_unmarked (s := []) unmarked fun _ => by simp

/-! Block comments. -/

theorem afterClose?_eq_none_iff : afterClose? s = none ↔ ¬ ['*', '/'] <:+: s := by
  fun_induction afterClose? s with
  | case1 rest => simp [List.infix_cons_iff]
  | case2 c rest still ih =>
    rw [ih, pair_infix_cons, not_or, iff_and_self]
    rintro _ ⟨rfl, slash⟩
    obtain ⟨m, rfl⟩ := List.head?_eq_some_iff.mp slash
    exact still _ rfl rfl
  | case3 => simp

theorem head?_dropBlockComments (other : s.head? ≠ some '/') :
    (dropBlockComments s).head? = s.head? := by
  cases s with
  | nil => rw [dropBlockComments_nil]
  | cons c s =>
    rw [dropBlockComments_cons]
    · rfl
    · rintro _ rfl
      exact absurd rfl other

theorem suffix_of_afterClose? (closed : afterClose? s = some after) : after <:+ s := by
  obtain ⟨m, _, rfl⟩ := afterClose?_eq_some_iff.mp closed
  exact ⟨m ++ ['*', '/'], by simp⟩

/-- What follows a block comment stands in the text as it is. -/
theorem infix_of_afterClose? (closed : afterClose? s = some after) : after <:+: '/' :: '*' :: s :=
  (suffix_of_afterClose? closed).isInfix.trans ⟨['/', '*'], [], by simp⟩

/-- No line mark arises where a block comment was. -/
theorem no_lineMark_dropBlockComments (unmarked : ¬ ['/', '/'] <:+: s) :
    ¬ ['/', '/'] <:+: dropBlockComments s := by
  fun_induction dropBlockComments s with
  | case1 rest after closed ih =>
    exact ih fun mark => unmarked (mark.trans (infix_of_afterClose? closed))
  | case2 rest unclosed => exact unmarked
  | case3 c rest other ih =>
    rw [pair_infix_cons, not_or] at unmarked ⊢
    refine ⟨?_, ih unmarked.2⟩
    rintro ⟨rfl, slash⟩
    have next : rest.head? ≠ some '/' := fun first => unmarked.1 ⟨rfl, first⟩
    exact next (head?_dropBlockComments next ▸ slash)
  | case4 => simp

/-- Where no line mark is, one removal of block comments leaves none. -/
theorem dropBlockComments_again (unmarked : ¬ ['/', '/'] <:+: s) :
    dropBlockComments (dropBlockComments s) = dropBlockComments s := by
  fun_induction dropBlockComments s with
  | case1 rest after closed ih =>
    exact ih fun mark => unmarked (mark.trans (infix_of_afterClose? closed))
  | case2 rest unclosed => exact dropBlockComments_unclosed unclosed
  | case3 c rest other ih =>
    rw [pair_infix_cons, not_or] at unmarked
    rw [dropBlockComments_cons, ih unmarked.2]
    rintro tail rfl star
    have next : rest.head? ≠ some '/' := fun first => unmarked.1 ⟨rfl, first⟩
    have first := head?_dropBlockComments next
    rw [star] at first
    obtain ⟨tail, rfl⟩ := List.head?_eq_some_iff.mp first.symm
    exact other tail rfl rfl
  | case4 => exact dropBlockComments_nil

theorem length_dropBlockComments_le (s : List Char) : (dropBlockComments s).length ≤ s.length := by
  fun_induction dropBlockComments s with
  | case1 rest after closed ih =>
    have shorter := length_afterClose? closed
    simp only [List.length_cons]
    omega
  | case2 => exact le_rfl
  | case3 c rest other ih => simpa using ih
  | case4 => exact le_rfl

theorem length_dropBlockComments_lt (holds : HoldsComment s) :
    (dropBlockComments s).length < s.length := by
  fun_induction dropBlockComments s with
  | case1 rest after closed =>
    have shorter := length_afterClose? closed
    have bound := length_dropBlockComments_le after
    simp only [List.length_cons]
    omega
  | case2 rest unclosed =>
    -- wherever the comment stands, its closing mark is behind the first opening mark
    obtain ⟨before, inner, after, whole⟩ := holds
    refine absurd ?_ (afterClose?_eq_none_iff.mp unclosed)
    rcases before with _ | ⟨_, _ | ⟨_, before⟩⟩
    · cases whole
      exact ⟨inner, after, by simp⟩
    · cases whole
    · cases whole
      exact ⟨before ++ '/' :: '*' :: inner, after, by simp⟩
  | case3 c rest other ih =>
    obtain ⟨before, inner, after, whole⟩ := holds
    cases before with
    | nil =>
      cases whole
      exact absurd rfl (other _ rfl)
    | cons d before =>
      cases whole
      simpa using ih ⟨before, inner, after, rfl⟩
  | case4 =>
    obtain ⟨before, inner, after, whole⟩ := holds
    simp at whole

/-- Exactly the texts without a block comment are left alone. -/
theorem dropBlockComments_eq_self_iff : dropBlockComments s = s ↔ ¬ HoldsComment s := by
  refine ⟨fun same holds => ?_, fun free => ?_⟩
  · have shorter := length_dropBlockComments_lt holds
    rw [same] at shorter
    exact lt_irrefl _ shorter
  · fun_induction dropBlockComments s with
    | case1 rest after closed =>
      obtain ⟨m, _, rfl⟩ := afterClose?_eq_some_iff.mp closed
      exact absurd ⟨[], m, after, rfl⟩ free
    | case2 => rfl
    | case3 c rest other ih =>
      rw [ih]
      rintro ⟨before, inner, after, rfl⟩
      exact free ⟨c :: before, inner, after, rfl⟩
    | case4 => rfl

theorem no_lineMark_dropComments (s : List Char) : ¬ ['/', '/'] <:+: dropComments s :=
  no_lineMark_dropBlockComments (no_lineMark_dropLineComments false s)

theorem not_holdsComment_dropComments (s : List Char) : ¬ HoldsComment (dropComments s) :=
  dropBlockComments_eq_self_iff.mp (dropBlockComments_again (no_lineMark_dropLineComments false s))

/-- A text without comments is left alone. -/
theorem dropComments_of_uncommented (unmarked : ¬ ['/', '/'] <:+: s) (free : ¬ HoldsComment s) :
    dropComments s = s := by
  rw [dropComments, dropLineComments_of_unmarked unmarked, dropBlockComments_eq_self_iff.mpr free]

end CloneScan.Source
