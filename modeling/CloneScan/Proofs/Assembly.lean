import CloneScan.Index

/-! Files completed in any order. After each completion the slots of the completed files hold their
results and the others are empty, so once every file was completed the order is forgotten: what is
left is what the loop of one worker gives and tells. -/
namespace CloneScan.Assembly

theorem results_turnsFrom (work : α → β) (total done : Nat) (xs : List α) :
    (turnsFrom work total done xs).results = xs.map work := by
  induction xs generalizing done with
  | nil => rfl
  | cons x rest ih => simp [turnsFrom, ih]

theorem told_turnsFrom (work : α → β) (total done : Nat) (xs : List α) :
    (turnsFrom work total done xs).told =
      (List.range xs.length).map fun k => ⟨done + k + 1, total⟩ := by
  induction xs generalizing done with
  | nil => rfl
  | cons x rest ih =>
    have later (k : Nat) : done + 1 + k + 1 = done + (k + 1) + 1 := by omega
    simp [turnsFrom, ih, List.range_succ_eq_map, later]

theorem oneByOne_eq_map (work : α → β) (xs : List α) : oneByOne work xs = xs.map work :=
  results_turnsFrom work _ _ xs

theorem told_turns (work : α → β) (xs : List α) : (turns work xs).told = progress xs.length := by
  rw [turns, told_turnsFrom]
  simp [progress]

/-- What holds when the files at the places in `done` have been completed, in whatever order. -/
structure Invariant (work : α → β) (xs : List α) (done : List Nat) (s : State β) : Prop where
  length : s.slots.length = xs.length
  filled : ∀ i x, i ∈ done → xs[i]? = some x → s.slots[i]? = some (some (work x))
  empty : ∀ i, i ∉ done → i < xs.length → s.slots[i]? = some none
  told : s.told = (List.range done.length).map fun k => ⟨k + 1, xs.length⟩

theorem start_invariant (work : α → β) (xs : List α) : Invariant work xs [] (start xs.length) where
  length := by simp [start]
  filled := by simp
  empty := by
    intro i _ bound
    simp [start, bound]
  told := rfl

/-- One completion fills its own slot and tells one more file; no other slot changes. -/
theorem complete_invariant (work : α → β) (xs : List α) (done : List Nat) (s : State β) (place : Nat)
    (inside : place < xs.length) (valid : Invariant work xs done s) :
    Invariant work xs (done ++ [place]) (complete work xs s place) := by
  have here : xs[place]? = some xs[place] := List.getElem?_eq_getElem inside
  have slot : place < s.slots.length := by rw [valid.length]; exact inside
  simp only [complete, here]
  constructor
  · simpa using valid.length
  · intro i x member at_i
    by_cases same : i = place
    · subst i
      have value : xs[place] = x := Option.some.inj (here.symm.trans at_i)
      simp [slot, value]
    · have earlier : i ∈ done := by simpa [same] using member
      rw [List.getElem?_set_ne (Ne.symm same)]
      exact valid.filled i x earlier at_i
  · intro i fresh bound
    have apart : i ∉ done ∧ i ≠ place := by simpa using fresh
    rw [List.getElem?_set_ne (Ne.symm apart.2)]
    exact valid.empty i apart.1 bound
  · simp [valid.told, List.range_succ]

theorem completed_invariant (work : α → β) (xs : List α) (order done : List Nat) (s : State β)
    (inside : ∀ place ∈ order, place < xs.length) (valid : Invariant work xs done s) :
    Invariant work xs (done ++ order) (order.foldl (complete work xs) s) := by
  induction order generalizing done s with
  | nil => simpa using valid
  | cons place order ih =>
    have parts := List.forall_mem_cons.mp inside
    have next := ih _ _ parts.2 (complete_invariant work xs done s place parts.1 valid)
    simpa using next

/-- Once all files are completed, every slot holds the result of its own file, and as many are told
as the loop of one worker tells. -/
theorem completed_eq (work : α → β) (xs : List α) (order : List Nat)
    (all : order.Perm (List.range xs.length)) :
    (completed work xs order).slots = (turns work xs).results.map some ∧
      (completed work xs order).told = (turns work xs).told := by
  have inside : ∀ place ∈ order, place < xs.length :=
    fun place member => List.mem_range.mp (all.mem_iff.mp member)
  have final := completed_invariant work xs order [] _ inside (start_invariant work xs)
  constructor
  · rw [turns, results_turnsFrom, List.map_map]
    apply List.ext_getElem?
    intro i
    by_cases bound : i < xs.length
    · have at_i : xs[i]? = some xs[i] := List.getElem?_eq_getElem bound
      have reached : i ∈ [] ++ order := all.mem_iff.mpr (List.mem_range.mpr bound)
      rw [completed, final.filled i xs[i] reached at_i, List.getElem?_map, at_i]
      rfl
    · have outside : xs.length ≤ i := Nat.le_of_not_lt bound
      rw [List.getElem?_eq_none (by rw [completed, final.length]; exact outside),
        List.getElem?_eq_none (by simpa using outside)]
  · have count : order.length = xs.length := by simpa using all.length_eq
    rw [told_turns, completed, final.told, List.nil_append, count]
    rfl

theorem sideBySide_eq (work : α → β) (xs : List α) (order : List Nat)
    (all : order.Perm (List.range xs.length)) : sideBySide work xs order = oneByOne work xs := by
  rw [sideBySide, results, (completed_eq work xs order all).1, List.filterMap_map, oneByOne]
  exact List.filterMap_some

end CloneScan.Assembly
