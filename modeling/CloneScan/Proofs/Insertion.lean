import CloneScan.Proofs.Lines
import CloneScan.Proofs.Marks

/-! Comments are transparent. A line comment can be put before any end of a line, and a block comment
anywhere outside of comments, without a change of the normal form: what stands before is looked at as if
nothing followed, and behind the comment the text is looked at as if nothing came before. -/
namespace CloneScan.Source

open Text

/-- A text that ends outside of every comment, and not in half a mark. -/
structure EndsOutside (s : List Char) : Prop where
  slash : s.getLast? ≠ some '/'
  line : ∀ l ∈ (lines s).getLast?, ¬ ['/', '/'] <:+: l
  block : ¬ ['/', '*'] <:+: dropComments s

/-- At the end of its line a line comment is dropped whole, also inside of another one. -/
theorem dropLineComments_append_comment (slash : s.getLast? ≠ some '/') (flat : '\n' ∉ a)
    (inside : Bool) :
    dropLineComments inside (s ++ '/' :: '/' :: a) = dropLineComments inside s := by
  induction s generalizing inside with
  | nil =>
    have gone : dropLineComments true a = [] := by
      simpa [dropLineComments] using dropLineComments_inside_append flat []
    simp [dropLineComments, gone]
  | cons c s ih =>
    have next : (c == '/' && (s ++ '/' :: '/' :: a).head? == some '/') =
        (c == '/' && s.head? == some '/') := by
      cases s with
      | nil => simpa using slash
      | cons => rfl
    have rest := ih fun last => slash (by simp [List.getLast?_cons, last])
    rw [List.cons_append, dropLineComments, dropLineComments, next, rest, rest]

theorem dropComments_lineComment (slash : s.getLast? ≠ some '/') (flat : '\n' ∉ a) (t : List Char) :
    dropComments (s ++ '/' :: '/' :: (a ++ '\n' :: t)) = dropComments (s ++ '\n' :: t) := by
  have whole : s ++ '/' :: '/' :: (a ++ '\n' :: t) = s ++ '/' :: '/' :: a ++ '\n' :: t := by simp
  rw [dropComments, dropComments, whole, dropLineComments_newline, dropLineComments_newline,
    dropLineComments_append_comment slash flat]

/-- What a text without a line mark on its last line leaves does not hang on what follows. -/
theorem exists_dropLineComments_append (slash : s.getLast? ≠ some '/')
    (line : ∀ l ∈ (lines s).getLast?, ¬ ['/', '/'] <:+: l) :
    ∃ kept, kept.getLast? ≠ some '/' ∧
      ∀ t, dropLineComments false (s ++ t) = kept ++ dropLineComments false t := by
  obtain ⟨l, last⟩ := Option.ne_none_iff_exists'.mp
    (mt List.getLast?_eq_none_iff.mp (List.splitOn_ne_nil '\n' s))
  have unmarked := line l last
  rcases last_line last with rfl | ⟨a, rfl⟩
  · exact ⟨s, slash, fun t =>
      dropLineComments_append_of_unmarked unmarked fun final => absurd final slash⟩
  · have apart : l.getLast? ≠ some '/' := fun final => slash (by simp [List.getLast?_cons, final])
    refine ⟨dropLineComments false a ++ '\n' :: l, ?_, fun t => ?_⟩
    · simpa [List.getLast?_append, List.getLast?_cons] using slash
    · rw [List.append_assoc, List.cons_append, dropLineComments_newline,
        dropLineComments_append_of_unmarked unmarked fun final => absurd final apart, List.append_assoc,
        List.cons_append]

theorem afterClose?_append_of_closed (closed : afterClose? s = some after) (t : List Char) :
    afterClose? (s ++ t) = some (after ++ t) := by
  obtain ⟨m, first, rfl⟩ := afterClose?_eq_some_iff.mp closed
  exact afterClose?_eq_some_iff.mpr ⟨m, first, by simp⟩

/-- Behind a text that closes its comments the removal starts anew. -/
theorem dropBlockComments_append_of_closed (slash : s.getLast? ≠ some '/')
    (none : ¬ ['/', '*'] <:+: dropBlockComments s) (t : List Char) :
    dropBlockComments (s ++ t) = dropBlockComments s ++ dropBlockComments t := by
  fun_induction dropBlockComments s with
  | case1 rest after closed ih =>
    have later : after.getLast? ≠ some '/' := by
      intro final
      obtain ⟨m, rfl⟩ := suffix_of_afterClose? closed
      exact slash (by simp [List.getLast?_cons, final])
    rw [List.cons_append, List.cons_append,
      dropBlockComments_closed (afterClose?_append_of_closed closed t), ih later none]
  | case2 rest unclosed => exact absurd ⟨[], rest, rfl⟩ none
  | case3 c rest other ih =>
    rw [pair_infix_cons, not_or] at none
    have later : rest.getLast? ≠ some '/' := fun final => slash (by simp [List.getLast?_cons, final])
    rw [List.cons_append, dropBlockComments_cons, ih later none.2, List.cons_append]
    -- a slash opens a comment only together with the next character, and it is not the last one
    rintro tail rfl star
    cases rest with
    | nil => exact slash rfl
    | cons d rest =>
      cases star
      exact other rest rfl rfl
  | case4 => rfl

theorem dropComments_append_of_endsOutside (outside : EndsOutside s) (t : List Char) :
    dropComments (s ++ t) = dropComments s ++ dropComments t := by
  obtain ⟨kept, slash, line⟩ := exists_dropLineComments_append outside.slash outside.line
  have alone : dropLineComments false s = kept := by simpa [dropLineComments] using line []
  have closed := outside.block
  rw [dropComments, alone] at closed
  rw [dropComments, line, dropBlockComments_append_of_closed slash closed, dropComments, alone,
    dropComments]

/-- A line comment can be put before the end of any line that does not end in a slash. A block comment
that holds neither its closing mark nor a line mark can be put wherever the text before it ends outside
of every comment and no slash follows. Neither changes the normal form. -/
theorem comments_transparent :
    (∀ before comment after : String, '\n' ∉ comment.toList → before.toList.getLast? ≠ some '/' →
      normalize (before ++ "//" ++ comment ++ "\n" ++ after) = normalize (before ++ "\n" ++ after)) ∧
    ∀ before comment after : String, EndsOutside before.toList →
      ¬ ['*', '/'] <:+: comment.toList → ¬ ['/', '/'] <:+: comment.toList →
      after.toList.head? ≠ some '/' →
      normalize (before ++ "/*" ++ comment ++ "*/" ++ after) = normalize (before ++ after) := by
  constructor
  · intro before comment after flat slash
    have dropped := dropComments_lineComment slash flat after.toList
    simp [normalize, normalForm, dropped]
  · intro before comment after outside unclosed unmarked next
    have dropped := dropComments_append_of_endsOutside outside
    have skipped := dropComments_blockComment unclosed unmarked next
    simp [normalize, normalForm, dropped, skipped]

/-- Comments of both kinds between others, the block comment with half a closing mark at either end. -/
theorem comment_among_comments_transparent :
    let before := "a // b /*\nc /* d */ e "
    let line := " /* x */ // y"
    let block := "/ x *\n*"
    let after := "* f // g\n/* h"
    ('\n' ∉ line.toList ∧ before.toList.getLast? ≠ some '/' ∧
      normalize (before ++ "//" ++ line ++ "\n" ++ after) = normalize (before ++ "\n" ++ after)) ∧
    EndsOutside before.toList ∧ ¬ ['*', '/'] <:+: block.toList ∧ ¬ ['/', '/'] <:+: block.toList ∧
      after.toList.head? ≠ some '/' ∧
      normalize (before ++ "/*" ++ block ++ "*/" ++ after) = normalize (before ++ after) := by
  intro before line block after
  have flat : '\n' ∉ line.toList := by decide
  have last : (lines before.toList).getLast? = some "c /* d */ e ".toList := by decide
  have closed : afterClose? [' ', 'd', ' ', '*', '/', ' ', 'e', ' '] = some [' ', 'e', ' '] := by decide
  have dropped : dropComments before.toList = "a \nc  e ".toList := by
    simp [before, dropComments, dropLineComments, dropBlockComments_cons,
      dropBlockComments_closed closed]
  have outside : EndsOutside before.toList := {
    slash := by decide
    line := by
      rw [last]
      simp [pair_infix_cons]
    block := by
      rw [dropped]
      simp [pair_infix_cons] }
  have unclosed : ¬ ['*', '/'] <:+: block.toList := by simp [block, pair_infix_cons]
  have unmarked : ¬ ['/', '/'] <:+: block.toList := by simp [block, pair_infix_cons]
  have next : after.toList.head? ≠ some '/' := by decide
  exact ⟨⟨flat, outside.slash, comments_transparent.1 before line after flat outside.slash⟩,
    outside, unclosed, unmarked, next,
    comments_transparent.2 before block after outside unclosed unmarked next⟩

end CloneScan.Source
