import CloneScan.Proofs.Patterns
import CloneScan.Proofs.Words
import CloneScan.Utility.Parameter

/-! Words of source text, which are runs of word characters, and the places where they stand. A name is
looked for with a pattern whose letters are fewer than the word characters. Still it is never found
inside a longer word, because a word that goes on has no edge there (`describes_identifier`), so what is
found are whole words (`finds_identifier`). -/
namespace CloneScan.Utility

open Text Pattern

variable {before run after s rest : List Char} {c : Char} {b : Option Char}

/-- A run of word characters that no word character touches, with the text on either side of it. -/
structure Stands (before run after : List Char) : Prop where
  filled : run ≠ []
  word : ∀ c ∈ run, isWordChar c = true
  starts : wordBefore before = false
  ends : wordAfter after = false

theorem wordAfter_word (filled : run ≠ []) (word : ∀ c ∈ run, isWordChar c = true)
    (after : List Char) : wordAfter (run ++ after) = true := by
  obtain ⟨c, more, rfl⟩ := List.exists_cons_of_ne_nil filled
  exact word c List.mem_cons_self

theorem wordBefore_word (filled : run ≠ []) (word : ∀ c ∈ run, isWordChar c = true)
    (before : List Char) : wordBefore (before ++ run) = true := by
  obtain ⟨front, c, rfl⟩ := (List.eq_nil_or_concat' run).resolve_left filled
  have last := word c (by simp)
  simpa [wordBefore, ← List.append_assoc] using last

theorem takeWhile_run (word : ∀ c ∈ run, isWordChar c = true) (ends : wordAfter rest = false) :
    (run ++ rest).takeWhile isWordChar = run := by
  rw [List.takeWhile_append_of_pos word]
  cases rest with
  | nil => simp
  | cons c rest =>
    have stop : isWordChar c = false := ends
    simp [stop]

/-- At one place no more than one run stands. -/
theorem Stands.unique {run' after' : List Char} (stands : Stands before run after)
    (other : Stands before run' after') (same : run ++ after = run' ++ after') :
    run = run' ∧ after = after' := by
  have runs : run = run' := by
    rw [← takeWhile_run stands.word stands.ends, same, takeWhile_run other.word other.ends]
  exact ⟨runs, List.append_cancel_left (runs ▸ same)⟩

/-- Something that is no word is between a run and the one before it. -/
theorem Stands.gap (stands : Stands before run after)
    (ends : wordAfter (before ++ run ++ after) = false) : before ≠ [] ∧ wordAfter before = false := by
  have apart : before ≠ [] := by
    rintro rfl
    rw [List.nil_append, wordAfter_word stands.filled stands.word] at ends
    cases ends
  rw [List.append_assoc, wordAfter_append, if_neg apart] at ends
  exact ⟨apart, ends⟩

/-- A run that stands in a text stands there too when the text goes on, unless a word goes on. -/
theorem Stands.append (stands : Stands before run after)
    (starts : wordBefore (before ++ run ++ after) = false) (s : List Char) :
    Stands before run (after ++ s) := by
  have apart : after ≠ [] := by
    rintro rfl
    rw [List.append_nil, wordBefore_word stands.filled stands.word] at starts
    cases starts
  refine { stands with ends := ?_ }
  rw [wordAfter_append, if_neg apart, stands.ends]

/-! ## Runs from left to right -/

theorem wordRuns_cons_other (other : isWordChar c = false) (s : List Char) :
    wordRuns (c :: s) = wordRuns s := by
  have stops : ∀ d ∈ [c], (!isWordChar d) = true := by simpa using other
  exact runs_ends_append stops s

theorem wordRuns_append (starts : wordBefore before = false) (s : List Char) :
    wordRuns (before ++ s) = wordRuns before ++ wordRuns s := by
  rcases List.eq_nil_or_concat' before with rfl | ⟨front, c, rfl⟩
  · simp [wordRuns]
  · have stop : (!isWordChar c) = true := by simpa [wordBefore] using starts
    have apart (t : List Char) : wordRuns (front ++ c :: t) = wordRuns front ++ wordRuns t :=
      runs_append_end stop front t
    have none : wordRuns [] = [] := by simp [wordRuns]
    rw [List.append_assoc, List.singleton_append, apart, apart, none, List.append_nil]

theorem wordRuns_run_append (filled : run ≠ []) (word : ∀ c ∈ run, isWordChar c = true)
    (ends : wordAfter rest = false) : wordRuns (run ++ rest) = run :: wordRuns rest := by
  have solid : wordRuns run = [run] := runs_of_solid filled (by simpa using word)
  cases rest with
  | nil => simpa [wordRuns] using solid
  | cons c rest =>
    have stop : (!isWordChar c) = true := by simpa [wordAfter] using ends
    have apart : wordRuns (run ++ c :: rest) = wordRuns run ++ wordRuns rest :=
      runs_append_end stop run rest
    rw [apart, solid, wordRuns_cons_other (by simpa using stop), List.singleton_append]

/-- A text is empty, or a text behind a character of no word, or a text behind a whole run. -/
theorem wordwise_induction {motive : List Char → Prop} (nil : motive [])
    (other : ∀ c s, isWordChar c = false → motive s → motive (c :: s))
    (run : ∀ run rest, run ≠ [] → (∀ c ∈ run, isWordChar c = true) → wordAfter rest = false →
      motive rest → motive (run ++ rest))
    (s : List Char) : motive s := by
  induction length : s.length using Nat.strong_induction_on generalizing s with
  | h n ih =>
    cases s with
    | nil => exact nil
    | cons c s =>
      rw [List.length_cons] at length
      cases word : isWordChar c with
      | false => exact other c s word (ih s.length (by omega) s rfl)
      | true =>
        have split := @List.takeWhile_append_dropWhile _ isWordChar s
        have shorter := List.length_dropWhile_le isWordChar s
        have stops : wordAfter (s.dropWhile isWordChar) = false := by
          have first := List.head?_dropWhile_not isWordChar s
          rw [wordAfter]
          cases head : (s.dropWhile isWordChar).head? with
          | none => rfl
          | some d => simpa [head] using first
        rw [← split, ← List.cons_append]
        refine run _ _ (List.cons_ne_nil _ _) (List.forall_mem_cons.mpr ⟨word, fun d member => ?_⟩)
          stops (ih _ (by omega) _ rfl)
        exact List.all_eq_true.mp List.all_takeWhile d member

theorem Stands.wordRuns_eq (stands : Stands before run after) :
    wordRuns (before ++ run ++ after) = wordRuns before ++ run :: wordRuns after := by
  rw [List.append_assoc, wordRuns_append stands.starts,
    wordRuns_run_append stands.filled stands.word stands.ends]

/-- Every run of a text stands somewhere in it. -/
theorem exists_stands {front back : List (List Char)} (split : wordRuns s = front ++ run :: back) :
    ∃ before after, s = before ++ run ++ after ∧ Stands before run after ∧ wordRuns before = front := by
  induction s using wordwise_induction generalizing front with
  | nil => simp [wordRuns] at split
  | other c s word ih =>
    rw [wordRuns_cons_other word] at split
    obtain ⟨before, after, rfl, stands, earlier⟩ := ih split
    refine ⟨c :: before, after, rfl, { stands with starts := ?_ }, ?_⟩
    · rw [← List.singleton_append, wordBefore_append]
      split
      · simpa [wordBefore] using word
      · exact stands.starts
    · rw [wordRuns_cons_other word, earlier]
  | run w rest filled word ends ih =>
    rw [wordRuns_run_append filled word ends] at split
    cases front with
    | nil =>
      obtain ⟨rfl, rfl⟩ := List.cons.inj split
      exact ⟨[], rest, rfl, ⟨filled, word, rfl, ends⟩, by simp [wordRuns]⟩
    | cons first front =>
      obtain ⟨rfl, later⟩ := List.cons.inj split
      obtain ⟨before, after, rfl, stands, earlier⟩ := ih later
      have apart := stands.gap ends
      refine ⟨w ++ before, after, by simp, { stands with starts := ?_ }, ?_⟩
      · rw [wordBefore_append, if_neg apart.1]
        exact stands.starts
      · rw [wordRuns_run_append filled word apart.2, earlier]

/-! ## Names -/

def isIdentifier : List Char → Bool
  | [] => false
  | c :: rest => isLowerLetter c && rest.all isPlain

/-- The pattern of a name: letters and digits from one edge of a word to another. -/
def identifier : Pattern := inOrder [edge, one isLowerLetter, many isPlain, edge]

theorem isPlain_of_isLowerLetter (lower : isLowerLetter c = true) : isPlain c = true := by
  have letter : c.isLower = true := lower
  change (c.isUpper || c.isLower || c.isDigit) = true
  simp [letter]

theorem isWordChar_of_isPlain (plain : isPlain c = true) : isWordChar c = true := by
  have ranges : (decide (c.val ≥ 65 ∧ c.val ≤ 90) || (decide (c.val ≥ 97) && decide (c.val ≤ 122)) ||
      (decide (c.val ≥ 48) && decide (c.val ≤ 57))) = true := plain
  simp only [ge_iff_le, UInt32.le_iff_toNat_le, UInt32.reduceToNat, Char.toNat_val, Bool.or_eq_true,
    Bool.and_eq_true, decide_eq_true_eq] at ranges
  obtain ⟨more, table⟩ : ∃ more, alphanumerics = 0x30 :: 0x3A :: 0x41 :: 0x5B :: 0x61 :: 0x7B :: more :=
    ⟨_, rfl⟩
  rw [isWordChar, isAlphanumeric, table, Boundaries.contains, Boundaries.contains, Boundaries.contains]
  grind

theorem isWordChar_of_isIdentifier (named : isIdentifier run = true) :
    run ≠ [] ∧ ∀ c ∈ run, isWordChar c = true := by
  cases run with
  | nil => cases named
  | cons c more =>
    rw [isIdentifier, Bool.and_eq_true, List.all_eq_true] at named
    exact ⟨List.cons_ne_nil c more, List.forall_mem_cons.mpr
      ⟨isWordChar_of_isPlain (isPlain_of_isLowerLetter named.1),
        fun d member => isWordChar_of_isPlain (named.2 d member)⟩⟩

/-- What the pattern describes are whole words that are made as a name is. -/
theorem describes_identifier :
    identifier.Describes before run after ↔ Stands before run after ∧ isIdentifier run = true := by
  constructor
  · rintro ⟨_, _, rfl, ⟨rfl, starts⟩, _, _, rfl, ⟨c, lower, rfl⟩, more, _, rfl, plain, _, _, rfl,
      ⟨rfl, ends⟩, rfl⟩
    have named : isIdentifier (c :: more) = true := by
      rw [isIdentifier, Bool.and_eq_true, List.all_eq_true]
      exact ⟨lower, plain⟩
    obtain ⟨filled, word⟩ := isWordChar_of_isIdentifier named
    have whole : [] ++ ([c] ++ (more ++ ([] ++ "".toList))) = c :: more := by simp
    have front : before ++ [] ++ [c] ++ more = before ++ c :: more := by simp
    have back : [c] ++ (more ++ ([] ++ "".toList)) ++ after = c :: more ++ after := by simp
    rw [back, wordAfter_word filled word] at starts
    rw [front, wordBefore_word filled word] at ends
    rw [whole]
    exact ⟨⟨filled, word, by simpa using starts, by simpa using ends⟩, named⟩
  · rintro ⟨stands, named⟩
    cases run with
    | nil => cases named
    | cons c more =>
      rw [isIdentifier, Bool.and_eq_true, List.all_eq_true] at named
      refine ⟨[], c :: more, rfl, ⟨rfl, ?_⟩, [c], more, rfl, ⟨c, named.1, rfl⟩, more, [], by simp, named.2,
        [], [], rfl, ⟨rfl, ?_⟩, rfl⟩
      · rw [stands.starts, wordAfter_word stands.filled stands.word]
        exact Bool.false_ne_true
      · have front : before ++ [] ++ [c] ++ more = before ++ c :: more := by simp
        rw [front, List.nil_append, stands.ends, wordBefore_word stands.filled stands.word]
        exact Bool.false_ne_true.symm

theorem wordBefore_toList (b : Option Char) : wordBefore b.toList = b.any isWordChar := by
  cases b <;> rfl

theorem mem_tries_identifier : (run, rest) ∈ identifier.tries b s ↔
    s = run ++ rest ∧ Stands b.toList run rest ∧ isIdentifier run = true := by
  have last : b.toList.getLast? = b := by cases b <;> rfl
  rw [← describes_identifier, ← mem_tries, last]

/-- Inside a word or off a word no name is tried. -/
theorem tries_identifier_eq_nil (apart : ¬ (b.any isWordChar = false ∧ wordAfter s = true)) :
    identifier.tries b s = [] := by
  rw [List.eq_nil_iff_forall_not_mem]
  rintro ⟨found, rest⟩ tried
  obtain ⟨rfl, stands, _⟩ := mem_tries_identifier.mp tried
  exact apart ⟨wordBefore_toList b ▸ stands.starts, wordAfter_word stands.filled stands.word rest⟩

/-- At the start of a word there is one way at most, and it is the whole word. -/
theorem mem_tries_word (stands : Stands b.toList run rest) (cut : List Char × List Char) :
    cut ∈ identifier.tries b (run ++ rest) ↔ cut = (run, rest) ∧ isIdentifier run = true := by
  obtain ⟨found, behind⟩ := cut
  rw [mem_tries_identifier, Prod.mk.injEq]
  constructor
  · rintro ⟨same, other, named⟩
    obtain ⟨rfl, rfl⟩ := stands.unique other same
    exact ⟨⟨rfl, rfl⟩, named⟩
  · rintro ⟨⟨rfl, rfl⟩, named⟩
    exact ⟨rfl, stands, named⟩

theorem getLast?_or (c : Char) (run : List Char) : run.getLast?.or (some c) = (c :: run).getLast? := by
  cases run <;> simp [List.getLast?_cons]

theorem finds_skipped (p : Pattern) (b : Option Char) (run rest : List Char) :
    p.finds run.length b (run ++ rest) = p.finds 0 (run.getLast?.or b) rest := by
  induction run generalizing b with
  | nil => rfl
  | cons c run ih =>
    rw [List.length_cons, List.cons_append, finds, ih, getLast?_or, List.getLast?_cons, Option.some_or]

/-- Nothing is found inside a word. -/
theorem finds_inside (word : ∀ c ∈ run, isWordChar c = true) (inside : b.any isWordChar = true)
    (rest : List Char) :
    identifier.finds 0 b (run ++ rest) = identifier.finds 0 (run.getLast?.or b) rest := by
  induction run generalizing b with
  | nil => rfl
  | cons c run ih =>
    obtain ⟨first, word⟩ := List.forall_mem_cons.mp word
    rw [List.cons_append, finds, tries_identifier_eq_nil (by simp [inside])]
    dsimp only
    rw [ih word (by simpa using first), getLast?_or, List.getLast?_cons, Option.some_or]

/-- At the start of a word the whole word is found if it is made as a name is, and otherwise nothing. -/
theorem finds_run (filled : run ≠ []) (word : ∀ c ∈ run, isWordChar c = true)
    (outside : b.any isWordChar = false) (ends : wordAfter rest = false) :
    identifier.finds 0 b (run ++ rest) =
      [run].filter isIdentifier ++ identifier.finds 0 run.getLast? rest := by
  have stands : Stands b.toList run rest := ⟨filled, word, by rw [wordBefore_toList, outside], ends⟩
  have tried := mem_tries_word stands
  obtain ⟨c, more, rfl⟩ := List.exists_cons_of_ne_nil filled
  obtain ⟨first, later⟩ := List.forall_mem_cons.mp word
  rw [List.cons_append] at tried ⊢
  rw [finds]
  cases ways : identifier.tries b (c :: (more ++ rest)) with
  | nil =>
    have unnamed : ¬ isIdentifier (c :: more) = true := fun named =>
      List.not_mem_nil (ways ▸ (tried _).mpr ⟨rfl, named⟩)
    dsimp only
    rw [finds_inside later (by simpa using first), getLast?_or, List.filter_cons_of_neg unnamed,
      List.filter_nil, List.nil_append]
  | cons cut others =>
    obtain ⟨rfl, named⟩ := (tried cut).mp (ways ▸ List.mem_cons_self)
    dsimp only
    rw [List.length_cons, Nat.add_sub_cancel, finds_skipped, getLast?_or,
      List.filter_cons_of_pos named, List.filter_nil, List.singleton_append]

/-- The names that are found are the whole words that are made as a name is. -/
theorem finds_identifier (apart : wordAfter s = true → b.any isWordChar = false) :
    identifier.finds 0 b s = (wordRuns s).filter isIdentifier := by
  induction s using wordwise_induction generalizing b with
  | nil => rfl
  | other c s word ih =>
    have before : (some c).any isWordChar = false := word
    rw [finds, tries_identifier_eq_nil (by simp [wordAfter, word]), wordRuns_cons_other word]
    exact ih fun _ => before
  | run w rest filled word ends ih =>
    have outside := apart (wordAfter_word filled word rest)
    rw [finds_run filled word outside ends, wordRuns_run_append filled word ends,
      ih (by simp [ends]), ← List.filter_append, List.singleton_append]

end CloneScan.Utility
