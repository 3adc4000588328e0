import CloneScan.Proofs.Lines
import CloneScan.Proofs.Scanning

/-! Texts of which the scan keeps one window. They have words in their first and in their last line
only, too few in either to be kept alone, so only the window that holds both lines passes. Any
number of lines can stand between. -/
namespace CloneScan

theorem Source.isCodeLine_of_start (split : Text.trim line = c :: rest)
    (start : c ∉ ['/', '*', 'i', '#']) : isCodeLine line = true := by
  have parts : c ≠ '/' ∧ c ≠ '*' ∧ c ≠ 'i' ∧ c ≠ '#' := by simpa using start
  obtain ⟨slash, star, letter, hash⟩ := parts
  simp [isCodeLine, isCommentLine, isImportLine, startsWithAny, split, List.isPrefixOf,
    Ne.symm slash, Ne.symm star, Ne.symm letter, Ne.symm hash]

namespace Scan

open Text (Framed IsWord)

/-- Two texts that are worth comparing together and neither of them alone. -/
structure Ends (minTokens : Nat) where
  first : List Char
  last : List Char
  firstFramed : Framed first
  lastFramed : Framed last
  firstShort : first.length < leastLength
  lastShort : last.length < leastLength ∨ wordCount last < minTokens
  long : leastLength ≤ first.length + last.length
  rich : minTokens ≤ wordCount first + wordCount last
  code : Source.isCodeLine last = true
  plain : ∀ c ∈ first ++ last, c ≠ '\n' ∧ c ≠ '\r'

namespace Ends

def window (e : Ends minTokens) : Nat → List (List Char)
  | n + 2 => e.first :: (List.replicate n [] ++ [e.last])
  | _ => [e.first ++ [' '] ++ e.last]

/-- A file ends with a newline, so nothing of the window is on its last line. -/
def file (e : Ends minTokens) (n : Nat) : List (List Char) := e.window n ++ [[]]

theorem length_window (e : Ends minTokens) (positive : 0 < n) : (e.window n).length = n := by
  fun_cases Ends.window e n with
  | case1 => simp
  | case2 _ small =>
    match n with
    | 1 => rfl
    | n + 2 => exact absurd rfl (small n)

theorem unlines_window (e : Ends minTokens) (n : Nat) :
    ∃ gap, gap ≠ [] ∧ Text.Blanks gap ∧ Text.unlines (e.window n) = e.first ++ gap ++ e.last := by
  fun_cases Ends.window e n with
  | case1 k =>
    refine ⟨List.replicate (k + 1) '\n', by simp, Text.blanks_newlines _, ?_⟩
    rw [Text.unlines_cons _ (by simp), Text.unlines_empty_append, List.replicate_succ]
    simp
  | case2 =>
    refine ⟨[' '], by simp, ?_, Text.unlines_singleton _⟩
    intro c member
    rw [List.mem_singleton.mp member]
    decide

theorem trim_window (e : Ends minTokens) (n : Nat) :
    Text.trim (Text.unlines (e.window n)) = Text.unlines (e.window n) := by
  obtain ⟨gap, _, _, text⟩ := e.unlines_window n
  rw [text]
  exact Text.trim_of_framed (Text.framed_append e.firstFramed gap e.lastFramed)

/-- A smaller window of the file holds one of the two texts at most. -/
theorem trim_other_window (e : Ends minTokens) {p : Position} (positive : 0 < p.size)
    (bound : p.start + p.size ≤ n) (other : p ≠ ⟨n, 0⟩) :
    Text.trim (Text.unlines (p.window (e.file n))) ∈ [[], e.first, e.last] := by
  obtain ⟨size, start⟩ := p
  simp only at positive bound
  match n with
  | 0 => omega
  | 1 => exact absurd (by simp; omega) other
  | n + 2 =>
    cases start with
    | zero =>
      -- From the top: the first text and blank lines.
      cases size with
      | zero => omega
      | succ m =>
        have smaller : m ≤ n := by
          by_contra larger
          exact other (by simp; omega)
        have window : Position.window ⟨m + 1, 0⟩ (e.file (n + 2)) =
            e.first :: List.replicate m [] := by
          rw [Position.window, List.drop_zero, file, Ends.window, List.cons_append,
            List.take_succ_cons, List.append_assoc, List.take_append_of_le_length (by simpa),
            List.take_replicate, Nat.min_eq_left smaller]
        rw [window, Text.unlines_append_empty, Text.trim_append_blanks (Text.blanks_newlines m),
          Text.trim_of_framed e.firstFramed]
        simp
    | succ i =>
      have below : i ≤ n := by omega
      have rest : (e.file (n + 2)).drop (i + 1) = List.replicate (n - i) [] ++ [e.last, []] := by
        rw [file, Ends.window, List.cons_append, List.drop_succ_cons, List.append_assoc,
          List.drop_append_of_le_length (by simpa), List.drop_replicate]
        rfl
      -- Further down there are blank lines, and the last text if the window reaches it.
      by_cases inner : size ≤ n - i
      · have window : Position.window ⟨size, i + 1⟩ (e.file (n + 2)) = List.replicate size [] := by
          rw [Position.window, rest, List.take_append_of_le_length (by simpa), List.take_replicate,
            Nat.min_eq_left inner]
        obtain ⟨m, rfl⟩ := Nat.exists_eq_succ_of_ne_zero (Nat.ne_of_gt positive)
        rw [window, List.replicate_succ, Text.unlines_append_empty, List.nil_append,
          ← List.append_nil (List.replicate m _), Text.trim_blanks_append (Text.blanks_newlines m)]
        simp [Text.trim, Text.trimStart, Text.trimEnd]
      · obtain rfl : size = n - i + 1 := by omega
        have window : Position.window ⟨n - i + 1, i + 1⟩ (e.file (n + 2)) =
            List.replicate (n - i) [] ++ [e.last] := by
          rw [Position.window, rest]
          simp [List.take_append]
        rw [window, Text.unlines_empty_append, Text.trim_blanks_append (Text.blanks_newlines _),
          Text.trim_of_framed e.lastFramed]
        simp

theorem rejected (e : Ends minTokens) {p : Position} (positive : 0 < p.size)
    (bound : p.start + p.size ≤ n) (other : p ≠ ⟨n, 0⟩) :
    accepts minTokens (p.window (e.file n)) = false := by
  have trimmed := e.trim_other_window positive bound other
  have short := e.firstShort
  have last := e.lastShort
  simp only [List.mem_cons, List.not_mem_nil, or_false] at trimmed
  rw [accepts]
  rcases trimmed with nothing | first | tail
  · simp [nothing, leastLength]
  · simp only [first, Bool.and_eq_false_iff, decide_eq_false_iff_not]
    omega
  · simp only [tail, Bool.and_eq_false_iff, decide_eq_false_iff_not]
    omega

theorem accepted (e : Ends minTokens) (positive : 0 < n)
    (fits : 2 ≤ n ∨ Source.isCodeLine (e.first ++ [' '] ++ e.last) = true) :
    accepts minTokens (e.window n) = true := by
  have lines : (e.window n).length ≤ 2 * ((e.window n).filter Source.isCodeLine).length := by
    fun_cases Ends.window e n with
    | case1 k =>
      -- Only the first line can be a comment line, and there are at least two.
      have blank : Source.isCodeLine [] = true := by decide
      have tail : ((List.replicate k [] ++ [e.last]).filter Source.isCodeLine).length = k + 1 := by
        simp [List.filter_append, blank, e.code]
      have sublist := (List.sublist_cons_self e.first (List.replicate k [] ++ [e.last])).filter
        Source.isCodeLine
      have bound := sublist.length_le
      simp only [List.length_cons, List.length_append, List.length_replicate, List.length_nil]
      omega
    | case2 _ small =>
      rcases fits with large | code
      · obtain ⟨k, rfl⟩ := Nat.exists_eq_add_of_le' large
        exact absurd rfl (small k)
      · rw [List.filter_cons_of_pos code]
        simp
  obtain ⟨gap, filled, blanks, text⟩ := e.unlines_window n
  have trimmed := e.trim_window n
  rw [text] at trimmed
  have long := e.long
  have rich := e.rich
  simp only [accepts, text, trimmed, wordCount, Text.words_append_gap filled blanks,
    Bool.and_eq_true, decide_eq_true_eq, List.length_append] at rich lines ⊢
  omega

theorem length_file (e : Ends minTokens) (positive : 0 < n) : (e.file n).length = n + 1 := by
  rw [file, List.length_append, e.length_window positive]
  rfl

theorem window_file (e : Ends minTokens) (positive : 0 < n) :
    Position.window ⟨n, 0⟩ (e.file n) = e.window n := by
  rw [Position.window, List.drop_zero, file]
  exact List.take_left' (e.length_window positive)

structure Kept {settings : Settings} (e : Ends settings.minTokens.val) (n : Nat) : Prop where
  listed : ∃ size ∈ settings.blockSizes, size.val = n
  code : 2 ≤ n ∨ Source.isCodeLine (e.first ++ [' '] ++ e.last) = true

variable {settings : Settings} {e : Ends settings.minTokens.val}

theorem Kept.positive (kept : e.Kept n) : 0 < n := by
  obtain ⟨size, _, same⟩ := kept.listed
  exact same ▸ size.property

/-- The scan of the file keeps the window with both texts, once for each time its size is listed. -/
theorem acceptedPositions_file (kept : e.Kept n) :
    acceptedPositions settings (e.file n) =
      List.replicate (acceptedPositions settings (e.file n)).length ⟨n, 0⟩ := by
  apply List.eq_replicate_of_mem
  intro p member
  obtain ⟨⟨size, _, same⟩, bound, passes⟩ := mem_acceptedPositions.mp member
  rw [e.length_file kept.positive] at bound
  by_contra other
  have filtered := e.rejected (same ▸ size.property) (by omega) other
  rw [filtered] at passes
  cases passes

theorem mem_acceptedPositions_file (kept : e.Kept n) :
    ⟨n, 0⟩ ∈ acceptedPositions settings (e.file n) := by
  refine mem_acceptedPositions.mpr ⟨kept.listed, ?_, ?_⟩
  · rw [e.length_file kept.positive]
    simp
  · rw [e.window_file kept.positive]
    exact e.accepted kept.positive kept.code

theorem plain_file (e : Ends minTokens) (n : Nat) :
    ∀ l ∈ e.file n, ∀ c ∈ l, c ≠ '\n' ∧ c ≠ '\r' := by
  intro l member c inside
  have plain := e.plain c
  rw [List.mem_append] at plain
  rcases List.mem_append.mp member with window | empty
  · revert window
    fun_cases Ends.window e n with
    | case1 k =>
      intro window
      simp only [List.mem_cons, List.mem_append, List.mem_replicate, List.not_mem_nil,
        or_false] at window
      rcases window with rfl | ⟨_, rfl⟩ | rfl
      · exact plain (.inl inside)
      · cases inside
      · exact plain (.inr inside)
    | case2 =>
      intro window
      rw [List.mem_singleton.mp window] at inside
      simp only [List.mem_append, List.mem_singleton] at inside
      rcases inside with (first | rfl) | last
      · exact plain (.inl first)
      · decide
      · exact plain (.inr last)
  · rw [List.mem_singleton.mp empty] at inside
    cases inside

/-- Texts without comment marks are kept word for word, whatever stands between them. -/
theorem normalForm_window (e : Ends minTokens) (noSlash : '/' ∉ e.first ++ e.last) (n : Nat) :
    Source.normalForm (Text.unlines (e.window n)) =
      Text.unwords (Text.words e.first ++ Text.words e.last) := by
  obtain ⟨gap, filled, blanks, text⟩ := e.unlines_window n
  have between := Source.slash_not_mem_of_blanks blanks
  have parts : '/' ∉ e.first ∧ '/' ∉ e.last := by simpa using noSlash
  have plain : '/' ∉ e.first ++ gap ++ e.last := by
    simp [parts.1, parts.2, between]
  rw [text, Source.normalForm_eq, Source.dropComments_of_plain plain,
    Text.words_append_gap filled blanks]

/-- Texts that open a comment and close it leave nothing, whatever stands between them. -/
theorem normalForm_comment (e : Ends minTokens) (opened : e.first = '/' :: '*' :: a)
    (closed : e.last = b ++ ['*', '/']) (noSlash : '/' ∉ a ++ b) (n : Nat) :
    Source.normalForm (Text.unlines (e.window n)) = [] := by
  obtain ⟨gap, _, blanks, text⟩ := e.unlines_window n
  have between := Source.slash_not_mem_of_blanks blanks
  have parts : '/' ∉ a ∧ '/' ∉ b := by simpa using noSlash
  have body : '/' ∉ a ++ gap ++ b := by
    simp [parts.1, parts.2, between]
  have whole : Text.unlines (e.window n) = '/' :: '*' :: (a ++ gap ++ b ++ ['*', '/']) := by
    rw [text, opened, closed]
    simp
  rw [Source.normalForm_eq_nil_iff, whole, Source.dropComments_block body]
  exact Text.blanks_nil

end Ends

structure Spelling where
  letter : Char
  opening : List Char
  closing : List Char
  solid : ∀ c ∈ letter :: (opening ++ closing), Text.isBlank c = false
  short : opening.length + closing.length < 40
  start : letter ∉ ['/', '*', 'i', '#']

namespace Spelling

def word (s : Spelling) : List Char := List.replicate 60 s.letter

def firstWord (s : Spelling) : List Char := s.opening ++ s.word

def lastWords (s : Spelling) (minTokens : Nat) : List (List Char) :=
  List.replicate (max minTokens 2 - 2) s.word ++ [s.word ++ s.closing]

theorem word_solid (s : Spelling) : ∀ c ∈ s.word, Text.isBlank c = false := by
  intro c member
  rw [List.eq_of_mem_replicate member]
  exact s.solid _ List.mem_cons_self

theorem firstWord_isWord (s : Spelling) : IsWord s.firstWord where
  filled := by simp [firstWord, word]
  solid c member := by
    rcases List.mem_append.mp member with opening | inside
    · exact s.solid c (List.mem_cons_of_mem _ (List.mem_append_left _ opening))
    · exact s.word_solid c inside

theorem lastWords_isWord (s : Spelling) (minTokens : Nat) :
    ∀ w ∈ s.lastWords minTokens, IsWord w := by
  intro w member
  rcases List.mem_append.mp member with filler | last
  · rw [List.eq_of_mem_replicate filler]
    exact ⟨by simp [word], s.word_solid⟩
  · rw [List.mem_singleton.mp last]
    refine ⟨by simp [word], fun c inside => ?_⟩
    rcases List.mem_append.mp inside with inside | closing
    · exact s.word_solid c inside
    · exact s.solid c (List.mem_cons_of_mem _ (List.mem_append_right _ closing))

def lastLine (s : Spelling) (minTokens : Nat) : List Char := Text.unwords (s.lastWords minTokens)

def body (s : Spelling) (minTokens : Nat) : List Char :=
  Text.unwords (List.replicate (max minTokens 2 - 2) s.word ++ [s.word])

theorem lastLine_eq (s : Spelling) (minTokens : Nat) :
    s.lastLine minTokens = s.body minTokens ++ s.closing :=
  Text.unwords_append_last _ _ _

theorem mem_body (s : Spelling) (member : c ∈ s.body minTokens) : c = ' ' ∨ c = s.letter := by
  rcases Text.mem_intercalate member with between | ⟨w, below, inside⟩
  · exact .inl between
  · have word : w = s.word := by
      rcases List.mem_append.mp below with filler | last
      · exact List.eq_of_mem_replicate filler
      · exact List.mem_singleton.mp last
    rw [word] at inside
    exact .inr (List.eq_of_mem_replicate inside)

theorem not_mem_text (s : Spelling) (blank : c ≠ ' ') (other : c ≠ s.letter) (minTokens : Nat) :
    c ∉ s.word ++ s.body minTokens := by
  intro member
  rcases List.mem_append.mp member with first | last
  · exact other (List.eq_of_mem_replicate first)
  · rcases s.mem_body last with between | letter
    · exact blank between
    · exact other letter

/-- The last line begins with the letter, whatever the marks. -/
theorem lastLine_start (s : Spelling) (minTokens : Nat) :
    ∃ rest, s.lastLine minTokens = s.letter :: rest := by
  rw [lastLine_eq, body]
  cases max minTokens 2 - 2 with
  | zero => exact ⟨List.replicate 59 s.letter ++ s.closing, rfl⟩
  | succ k =>
    rw [List.replicate_succ, List.cons_append, Text.unwords_cons _ (by simp), word,
      List.replicate_succ]
    exact ⟨_, rfl⟩

theorem wordCount_lastLine (s : Spelling) (minTokens : Nat) :
    wordCount (s.lastLine minTokens) = max minTokens 2 - 1 := by
  rw [wordCount, lastLine, Text.words_unwords (s.lastWords_isWord minTokens), lastWords,
    List.length_append, List.length_replicate, List.length_singleton]
  omega

theorem length_lastLine (s : Spelling) (minTokens : Nat) : 60 ≤ (s.lastLine minTokens).length := by
  have split := Text.unwords_append_last (List.replicate (max minTokens 2 - 2) s.word) [] s.word
  rw [List.nil_append] at split
  rw [lastLine_eq, body, split, word]
  simp only [List.length_append, List.length_replicate]
  omega

theorem lastLine_framed (s : Spelling) (minTokens : Nat) : Text.Framed (s.lastLine minTokens) :=
  Text.framed_unwords (by simp [lastWords]) (s.lastWords_isWord minTokens)

theorem plain_of_visible (visible : Text.isBlank c = false) : c ≠ '\n' ∧ c ≠ '\r' := by
  constructor
  · rintro rfl
    exact absurd visible (by decide)
  · rintro rfl
    exact absurd visible (by decide)

theorem firstWord_short (s : Spelling) : s.firstWord.length < leastLength := by
  have short := s.short
  simp only [firstWord, word, List.length_append, List.length_replicate, leastLength]
  omega

theorem lastLine_short (s : Spelling) (minTokens : Nat) :
    (s.lastLine minTokens).length < leastLength ∨ wordCount (s.lastLine minTokens) < minTokens := by
  by_cases few : minTokens ≤ 2
  · left
    have short := s.short
    have alone : s.lastLine minTokens = s.word ++ s.closing := by
      simp [lastLine, lastWords, Nat.sub_eq_zero_of_le (Nat.max_le.mpr ⟨few, Nat.le_refl 2⟩),
        Text.unwords]
    simp only [alone, word, List.length_append, List.length_replicate, leastLength]
    omega
  · right
    rw [s.wordCount_lastLine]
    omega

theorem lines_long (s : Spelling) (minTokens : Nat) :
    leastLength ≤ s.firstWord.length + (s.lastLine minTokens).length := by
  have enough := s.length_lastLine minTokens
  simp only [firstWord, word, List.length_append, List.length_replicate, leastLength]
  omega

theorem lines_rich (s : Spelling) (minTokens : Nat) :
    minTokens ≤ wordCount s.firstWord + wordCount (s.lastLine minTokens) := by
  rw [s.wordCount_lastLine, wordCount, Text.words_of_isWord s.firstWord_isWord,
    List.length_singleton]
  omega

theorem lastLine_code (s : Spelling) (minTokens : Nat) :
    Source.isCodeLine (s.lastLine minTokens) = true := by
  obtain ⟨rest, split⟩ := s.lastLine_start minTokens
  have trimmed := Text.trim_of_framed (s.lastLine_framed minTokens)
  rw [split] at trimmed ⊢
  exact Source.isCodeLine_of_start trimmed s.start

theorem lines_plain (s : Spelling) (minTokens : Nat) :
    ∀ c ∈ s.firstWord ++ s.lastLine minTokens, c ≠ '\n' ∧ c ≠ '\r' := by
  intro c member
  rcases List.mem_append.mp member with first | last
  · exact plain_of_visible (s.firstWord_isWord.solid c first)
  · rcases Text.mem_intercalate last with rfl | ⟨w, below, inside⟩
    · decide
    · exact plain_of_visible ((s.lastWords_isWord minTokens w below).solid c inside)

def ends (s : Spelling) (minTokens : Nat) : Ends minTokens where
  first := s.firstWord
  last := s.lastLine minTokens
  firstFramed := Text.framed_of_isWord s.firstWord_isWord
  lastFramed := s.lastLine_framed minTokens
  firstShort := s.firstWord_short
  lastShort := s.lastLine_short minTokens
  long := s.lines_long minTokens
  rich := s.lines_rich minTokens
  code := s.lastLine_code minTokens
  plain := s.lines_plain minTokens

end Spelling

end Scan

end CloneScan
