import CloneScan.Proofs.Words

/-! Lines and their text, in both directions. No line holds a newline, so rows of such lines and the
texts that they make determine each other. -/
namespace CloneScan.Text

/-- No piece of a text holds the character that the text is split at. -/
theorem not_mem_splitOn (sep : Char) (s : List Char) : ∀ l ∈ s.splitOn sep, sep ∉ l := by
  induction s with
  | nil => simp
  | cons c s ih =>
    intro l member
    obtain ⟨first, rest, split⟩ := List.exists_cons_of_ne_nil (List.splitOn_ne_nil sep s)
    rw [split] at ih
    rw [List.splitOn_cons_eq_if_modifyHead, split] at member
    by_cases separates : c = sep
    · rw [if_pos (by simpa using separates)] at member
      rcases List.mem_cons.mp member with rfl | later
      · exact List.not_mem_nil
      · exact ih l later
    · rw [if_neg (by simpa using separates), List.modifyHead_cons] at member
      rcases List.mem_cons.mp member with rfl | later
      · intro inside
        rcases List.mem_cons.mp inside with same | deeper
        · exact separates same.symm
        · exact ih first List.mem_cons_self deeper
      · exact ih l (List.mem_cons_of_mem _ later)

theorem newline_not_mem_lines (s : List Char) : ∀ l ∈ lines s, '\n' ∉ l := not_mem_splitOn '\n' s

theorem lines_unlines (filled : ls ≠ []) (flat : ∀ l ∈ ls, '\n' ∉ l) : lines (unlines ls) = ls :=
  List.splitOn_intercalate '\n' flat filled

@[simp] theorem unlines_singleton (l : List Char) : unlines [l] = l := by simp [unlines]

theorem unlines_cons (l : List Char) (filled : ls ≠ []) :
    unlines (l :: ls) = l ++ '\n' :: unlines ls := by
  rw [unlines, List.intercalate_cons_of_ne_nil filled, List.append_assoc]
  rfl

theorem unlines_append_singleton (filled : ls ≠ []) (l : List Char) :
    unlines (ls ++ [l]) = unlines ls ++ '\n' :: l := by
  induction ls with
  | nil => contradiction
  | cons k ls ih =>
    by_cases last : ls = []
    · rw [last, List.singleton_append, unlines_cons k (by simp), unlines_singleton, unlines_singleton]
    · rw [List.cons_append, unlines_cons k (by simp), unlines_cons k last, ih last, List.append_assoc,
        List.cons_append]

/-- The last line of a text is the text, or what follows one of its newlines. -/
theorem last_line (last : l ∈ (lines s).getLast?) : s = l ∨ ∃ a, s = a ++ '\n' :: l := by
  obtain ⟨ls, all⟩ := List.getLast?_eq_some_iff.mp last
  have whole := unlines_lines s
  rw [all] at whole
  by_cases single : ls = []
  · exact .inl (by rw [← whole, single, List.nil_append, unlines_singleton])
  · exact .inr ⟨unlines ls, by rw [← whole, unlines_append_singleton single]⟩

theorem blanks_newlines (k : Nat) : Blanks (List.replicate k '\n') := by
  intro c member
  rw [List.eq_of_mem_replicate member]
  decide

theorem unlines_empty_append (k : Nat) (l : List Char) :
    unlines (List.replicate k [] ++ [l]) = List.replicate k '\n' ++ l := by
  induction k with
  | zero => simp
  | succ k ih =>
    rw [List.replicate_succ, List.cons_append, unlines_cons _ (by simp), ih]
    rfl

theorem unlines_append_empty (l : List Char) (k : Nat) :
    unlines (l :: List.replicate k []) = l ++ List.replicate k '\n' := by
  cases k with
  | zero => simp
  | succ k =>
    have tail := unlines_empty_append k []
    rw [← List.replicate_succ', List.append_nil] at tail
    rw [unlines_cons _ (by simp), tail]
    rfl

end CloneScan.Text
