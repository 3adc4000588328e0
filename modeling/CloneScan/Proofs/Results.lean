import Mathlib.Data.List.Forall2

/-! Steps that can fail. A row of steps comes out well exactly if each of them does, and what each of
them gives stands beside what it was given. -/
namespace CloneScan

theorem ok_bind (a : α) (next : α → Except ε β) : (Except.ok a >>= next) = next a := rfl

theorem bind_eq_ok {result : Except ε α} {next : α → Except ε β} {b : β} :
    (result >>= next) = .ok b ↔ ∃ a, result = .ok a ∧ next a = .ok b := by
  cases result with
  | error e => simp [bind, Except.bind]
  | ok a => simp [bind, Except.bind]

/-! ## Pairs -/

/-- Two lists that are related element by element, as one list of pairs. -/
theorem exists_pairs {R : α → β → Prop} (related : List.Forall₂ R xs ys) :
    ∃ pairs : List (α × β), (∀ p ∈ pairs, R p.1 p.2) ∧ pairs.map (·.1) = xs ∧ pairs.map (·.2) = ys := by
  obtain ⟨lengths, each⟩ := List.forall₂_iff_zip.mp related
  exact ⟨xs.zip ys, fun p member => each member, List.map_fst_zip (Nat.le_of_eq lengths),
    List.map_snd_zip (Nat.le_of_eq lengths.symm)⟩

/-- A list each of whose elements has something related to it, with the related things beside it. -/
theorem exists_partners {R : α → β → Prop} {xs : List α} (each : ∀ x ∈ xs, ∃ y, R x y) :
    ∃ pairs : List (α × β), (∀ p ∈ pairs, R p.1 p.2) ∧ pairs.map (·.1) = xs := by
  induction xs with
  | nil => exact ⟨[], by simp, rfl⟩
  | cons x xs ih =>
    obtain ⟨⟨y, related⟩, rest⟩ := List.forall_mem_cons.mp each
    obtain ⟨pairs, others, rfl⟩ := ih rest
    exact ⟨(x, y) :: pairs, List.forall_mem_cons.mpr ⟨related, others⟩, rfl⟩

/-! ## Rows -/

section Rows

variable {f : α → Except ε β} {xs : List α} {ys : List β}

theorem mapM_of_forall₂ (each : List.Forall₂ (fun x y => f x = .ok y) xs ys) :
    xs.mapM f = .ok ys := by
  induction each with
  | nil => rfl
  | cons first _ ih =>
    rw [List.mapM_cons, first, ih]
    rfl

theorem forall₂_of_mapM (made : xs.mapM f = .ok ys) :
    List.Forall₂ (fun x y => f x = .ok y) xs ys := by
  induction xs generalizing ys with
  | nil =>
    cases made
    exact .nil
  | cons x xs ih =>
    rw [List.mapM_cons] at made
    obtain ⟨y, first, made⟩ := bind_eq_ok.mp made
    obtain ⟨ys, rest, made⟩ := bind_eq_ok.mp made
    cases made
    exact .cons first (ih rest)

theorem mapM_ok {g : α → β} (each : ∀ x ∈ xs, f x = .ok (g x)) : xs.mapM f = .ok (xs.map g) :=
  mapM_of_forall₂ (List.forall₂_map_right_iff.mpr (List.forall₂_same.mpr each))

theorem exists_of_mapM (made : xs.mapM f = .ok ys) : ∀ x ∈ xs, ∃ y, f x = .ok y := by
  obtain ⟨pairs, each, rfl, rfl⟩ := exists_pairs (forall₂_of_mapM made)
  exact List.forall_mem_map.mpr fun p member => ⟨p.2, each p member⟩

end Rows

/-! ## A first one -/

section First

variable {f g : α → Except ε Bool}

theorem findM?_append (f : α → Except ε Bool) (front back : List α) :
    (front ++ back).findM? f = (do
      match ← front.findM? f with
      | some found => return some found
      | none => back.findM? f) := by
  induction front with
  | nil => rfl
  | cons x front ih =>
    rw [List.cons_append, List.findM?, List.findM?, ih]
    rcases f x with e | _ | _ <;> rfl

theorem findM?_congr {xs : List α} (alike : ∀ x ∈ xs, f x = g x) : xs.findM? f = xs.findM? g := by
  induction xs with
  | nil => rfl
  | cons x xs ih =>
    obtain ⟨first, rest⟩ := List.forall_mem_cons.mp alike
    rw [List.findM?, List.findM?, first, ih rest]

end First

end CloneScan
