import CloneScan.Proofs.Insertion

/-! The words of a text outside its comments. They are read off a text from the front: comments at its
front give none, and a line without slashes gives its own. So the normal form of a text that is put
together from comments and plain lines is known without looking into its comments. -/
namespace CloneScan

namespace Text

theorem pair_infix_append {a b : Char} :
    [a, b] <:+: s ++ t ↔ [a, b] <:+: s ∨ [a, b] <:+: t ∨ (s.getLast? = some a ∧ t.head? = some b) := by
  induction s with
  | nil => simp
  | cons c s ih =>
    rw [List.cons_append, pair_infix_cons, ih, pair_infix_cons]
    cases s with
    | nil => simp; tauto
    | cons d s => simp [List.getLast?_cons_cons]; tauto

theorem unwords_append (left : ws ≠ []) (right : vs ≠ []) :
    unwords (ws ++ vs) = unwords ws ++ ' ' :: unwords vs := by
  induction ws with
  | nil => contradiction
  | cons w ws ih =>
    by_cases last : ws = []
    · rw [last, List.singleton_append, unwords_cons w right]
      simp [unwords]
    · simp [unwords_cons w last, unwords_cons w (List.append_ne_nil_of_left_ne_nil last vs), ih last]

end Text

namespace Source

open Text

/-- The words of a text outside its comments. -/
def liveWords (s : List Char) : List (List Char) := words (dropComments s)

theorem normalForm_eq_unwords (s : List Char) : normalForm s = unwords (liveWords s) := normalForm_eq s

@[simp] theorem liveWords_nil : liveWords [] = [] := by
  simp [liveWords, dropComments_of_plain]

/-- A line without slashes gives its words. -/
theorem liveWords_line (plain : '/' ∉ a) (t : List Char) :
    liveWords (a ++ '\n' :: t) = words a ++ liveWords t := by
  have line : '/' ∉ a ++ ['\n'] := by simpa using plain
  have dropped := dropComments_append line t
  simp only [List.append_assoc, List.singleton_append] at dropped
  rw [liveWords, dropped, words_append_blank (by decide)]
  rfl

theorem liveWords_blank_line (t : List Char) : liveWords ('\n' :: t) = liveWords t := by
  simpa using liveWords_line List.not_mem_nil t

/-- A line that starts as a comment gives none, whatever it holds. -/
theorem liveWords_comment_line (blanks : Blanks a) (flat : '\n' ∉ l) (t : List Char) :
    liveWords (a ++ '/' :: '/' :: (l ++ '\n' :: t)) = liveWords t := by
  have slash : '/' ∉ a := slash_not_mem_of_blanks blanks
  have dropped : dropComments (a ++ '/' :: '/' :: (l ++ '\n' :: t)) = dropComments (a ++ '\n' :: t) :=
    dropComments_lineComment (fun last => slash (List.mem_of_getLast? last)) flat t
  have line := liveWords_line slash t
  rw [words_of_blanks blanks, List.nil_append] at line
  rw [liveWords, dropped]
  exact line

/-- No mark that closes a comment arises where a line comment was. -/
theorem no_closingMark_dropLineComments (unclosed : ¬ ['*', '/'] <:+: s) (inside : Bool) :
    ¬ ['*', '/'] <:+: dropLineComments inside s := by
  induction s generalizing inside with
  | nil => simp [dropLineComments]
  | cons c s ih =>
    rw [pair_infix_cons, not_or] at unclosed
    rw [dropLineComments]
    split
    · rename_i newline
      simp [pair_infix_cons, newline, ih unclosed.2]
    · split
      · exact ih unclosed.2 true
      · rw [pair_infix_cons]
        rintro (⟨rfl, slash⟩ | later)
        · have next : s.head? ≠ some '/' := fun first => unclosed.1 ⟨rfl, first⟩
          exact next (head?_dropLineComments next ▸ slash)
        · exact ih unclosed.2 false later

/-- Text for a comment: whole lines, none of which closes it. -/
structure Enclosed (s : List Char) : Prop where
  ended : s.getLast? = some '\n'
  unclosed : ¬ ['*', '/'] <:+: s

/-- A block comment that is closed at the front of a line gives no words. -/
theorem liveWords_block_comment (enclosed : Enclosed a) (t : List Char) :
    liveWords ('/' :: '*' :: (a ++ ' ' :: '*' :: '/' :: '\n' :: t)) = liveWords t := by
  obtain ⟨b, rfl⟩ := List.getLast?_eq_some_iff.mp enclosed.ended
  have unclosed : ¬ ['*', '/'] <:+: b := fun mark =>
    enclosed.unclosed (mark.trans (List.prefix_append b ['\n']).isInfix)
  -- the closing mark stands on a line of its own, which no line comment can swallow
  have lines : dropLineComments false ('/' :: '*' :: (b ++ '\n' :: ' ' :: '*' :: '/' :: '\n' :: t)) =
      '/' :: '*' :: (dropLineComments false b ++
        '\n' :: ' ' :: '*' :: '/' :: '\n' :: dropLineComments false t) := by
    simp [dropLineComments, dropLineComments_newline]
  have body : ¬ ['*', '/'] <:+: dropLineComments false b ++ ['\n', ' '] := by
    simp [pair_infix_append, pair_infix_cons, no_closingMark_dropLineComments unclosed]
  have closed : afterClose? (dropLineComments false b ++
      '\n' :: ' ' :: '*' :: '/' :: '\n' :: dropLineComments false t) =
        some ('\n' :: dropLineComments false t) :=
    afterClose?_eq_some_iff.mpr ⟨_, body, by simp⟩
  have whole : dropComments ('/' :: '*' :: (b ++ '\n' :: ' ' :: '*' :: '/' :: '\n' :: t)) =
      '\n' :: dropComments t := by
    rw [dropComments, lines, dropBlockComments_closed closed, dropBlockComments_cons (by simp)]
    rfl
  simp [liveWords, whole, words_cons_blank (show isBlank '\n' = true by decide)]

/-! Text for a comment is put together from lines. -/

theorem enclosed_newline : Enclosed ['\n'] := ⟨rfl, by simp [pair_infix_cons]⟩

theorem Enclosed.append (front : Enclosed a) (back : Enclosed b) : Enclosed (a ++ b) where
  ended := by simp [back.ended]
  unclosed := by simp [pair_infix_append, front.unclosed, back.unclosed, front.ended]

theorem Enclosed.flatten {ls : List (List Char)} (front : Enclosed a)
    (lines : ∀ l ∈ ls, Enclosed l) : Enclosed (a ++ ls.flatten) := by
  induction ls generalizing a with
  | nil => simpa using front
  | cons l ls ih =>
    have parts := List.forall_mem_cons.mp lines
    simpa using ih (front.append parts.1) parts.2

/-- Text without a closing mark between a start and an end that complete none. -/
theorem Enclosed.around (rest : Enclosed q) (slash : q.head? ≠ some '/')
    (start : ¬ ['*', '/'] <:+: p) (star : p.getLast? ≠ some '*') (middle : ¬ ['*', '/'] <:+: a) :
    Enclosed (p ++ (a ++ q)) where
  ended := by simp [rest.ended]
  unclosed := by
    simp [pair_infix_append, start, middle, rest.unclosed, slash, star]

end Source

end CloneScan
