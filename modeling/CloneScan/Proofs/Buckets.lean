import CloneScan.Buckets
import Mathlib.Data.List.Basic
import Mathlib.Data.List.Induction

/-! What collecting by a key computes: for each key, in the order of first appearance, exactly the
elements with that key in the order of the list. -/
namespace CloneScan.Buckets

theorem eraseDups_concat [BEq κ] [LawfulBEq κ] (keys : List κ) (key : κ) :
    (keys ++ [key]).eraseDups = if key ∈ keys then keys.eraseDups else keys.eraseDups ++ [key] := by
  rw [List.eraseDups_append]
  split <;> simp_all [List.removeAll, List.eraseDups_cons]

theorem nodup_eraseDups [BEq κ] [LawfulBEq κ] (keys : List κ) : keys.eraseDups.Nodup := by
  induction keys using List.reverseRecOn with
  | nil => exact List.nodup_nil
  | append_singleton keys key ih =>
    rw [eraseDups_concat]
    split
    · exact ih
    · rename_i fresh
      rw [List.nodup_append]
      refine ⟨ih, by simp, ?_⟩
      intro a member b last same
      rw [List.mem_singleton] at last
      exact fresh (List.mem_eraseDups.mp (last ▸ same ▸ member))

theorem eraseDups_of_nodup [BEq κ] [LawfulBEq κ] {keys : List κ} (distinct : keys.Nodup) :
    keys.eraseDups = keys := by
  induction keys using List.reverseRecOn with
  | nil => rfl
  | append_singleton front last ih =>
    obtain ⟨before, _, apart⟩ := List.nodup_append.mp distinct
    have new : last ∉ front := fun member => apart last member last List.mem_cons_self rfl
    rw [eraseDups_concat, if_neg new, ih before]

/-- A key that was met before makes no difference. -/
theorem eraseDups_append_cons [BEq κ] [LawfulBEq κ] {key : κ} {keys rest : List κ} (met : key ∈ keys) :
    (keys ++ key :: rest).eraseDups = (keys ++ rest).eraseDups := by
  rw [List.eraseDups_append, List.eraseDups_append]
  simp [List.removeAll, met]

theorem two_le_length_eraseDups [BEq κ] [LawfulBEq κ] (keys : List κ) :
    2 ≤ keys.eraseDups.length ↔ ∃ a ∈ keys, ∃ b ∈ keys, a ≠ b := by
  have distinct := nodup_eraseDups keys
  have same (a : κ) : a ∈ keys ↔ a ∈ keys.eraseDups := List.mem_eraseDups.symm
  simp only [same]
  match left : keys.eraseDups, distinct with
  | [], _ => simp
  | [a], _ => simp
  | a :: b :: rest, distinct =>
    have apart : a ≠ b := by
      rintro rfl
      simp at distinct
    exact ⟨fun _ => ⟨a, by simp, b, by simp, apart⟩, fun _ => by simp⟩

/-- Keys stand in the order in which they are first met. -/
theorem eraseDups_ordered [BEq κ] [LawfulBEq κ] (keys : List κ) :
    keys.eraseDups.Pairwise fun a b => keys.idxOf a < keys.idxOf b := by
  induction keys using List.reverseRecOn with
  | nil => exact List.Pairwise.nil
  | append_singleton keys key ih =>
    have kept {a : κ} (member : a ∈ keys) : (keys ++ [key]).idxOf a = keys.idxOf a :=
      List.idxOf_append_of_mem member
    have earlier : keys.eraseDups.Pairwise fun a b =>
        (keys ++ [key]).idxOf a < (keys ++ [key]).idxOf b := by
      refine ih.imp_of_mem ?_
      intro a b ha hb before
      rw [kept (List.mem_eraseDups.mp ha), kept (List.mem_eraseDups.mp hb)]
      exact before
    rw [eraseDups_concat]
    split
    · exact earlier
    · rename_i fresh
      rw [List.pairwise_append]
      refine ⟨earlier, List.pairwise_singleton _ _, ?_⟩
      intro a ha b hb
      have known := List.mem_eraseDups.mp ha
      have inside := List.idxOf_lt_length_iff.mpr known
      rw [List.mem_singleton.mp hb, kept known, List.idxOf_append_of_notMem fresh]
      omega

theorem add_perm (same : κ → κ → Bool) (key : κ) (x : α) (buckets : List (κ × List α)) :
    ((add same key x buckets).flatMap (·.2)).Perm (x :: buckets.flatMap (·.2)) := by
  fun_induction add same key x buckets with
  | case1 => simp
  | case2 other members rest _ =>
    simp only [List.flatMap_cons, List.append_assoc, List.singleton_append]
    exact List.perm_middle
  | case3 other members rest _ ih =>
    simp only [List.flatMap_cons]
    exact (ih.append_left members).trans List.perm_middle

theorem ofList_concat [BEq κ] (key : α → κ) (xs : List α) (x : α) :
    ofList key (xs ++ [x]) = add (· == ·) (key x) x (ofList key xs) := by
  simp [ofList, ofListBy]

/-- Keys may be written in another way, and elements too, as long as the same keys agree. -/
theorem add_map_both [BEq κ] {same : ν → ν → Bool} {write : κ → ν}
    (agrees : ∀ k l, same (write k) (write l) = (k == l)) (f : α → β) (key : κ) (x : α)
    (buckets : List (κ × List α)) :
    add same (write key) (f x) (buckets.map fun b => (write b.1, b.2.map f)) =
      (add (· == ·) key x buckets).map fun b => (write b.1, b.2.map f) := by
  induction buckets with
  | nil => rfl
  | cons bucket rest ih =>
    obtain ⟨other, members⟩ := bucket
    rw [List.map_cons, add, add, agrees]
    split
    · simp
    · rw [ih, List.map_cons]

theorem ofListBy_map [BEq κ] {same : ν → ν → Bool} {write : κ → ν}
    (agrees : ∀ k l, same (write k) (write l) = (k == l)) (key : α → κ) (writtenKey : β → ν)
    (f : α → β) (written : ∀ x, writtenKey (f x) = write (key x)) (xs : List α) :
    ofListBy same writtenKey (xs.map f) =
      (ofList key xs).map fun b => (write b.1, b.2.map f) := by
  induction xs using List.reverseRecOn with
  | nil => rfl
  | append_singleton xs x ih =>
    rw [ofList_concat, ← add_map_both agrees, ← ih]
    simp [ofListBy, written]

/-- The buckets of a list hold its elements, each as often as the list does. -/
theorem ofList_perm [BEq κ] (key : α → κ) (xs : List α) :
    ((ofList key xs).flatMap (·.2)).Perm xs := by
  induction xs using List.reverseRecOn with
  | nil => exact List.Perm.refl _
  | append_singleton xs x ih =>
    rw [ofList_concat]
    exact (add_perm _ _ _ _).trans ((ih.cons x).trans (List.perm_append_singleton x xs).symm)

variable [BEq κ] [LawfulBEq κ]

/-- One element more: its key is known, or stands at the end from now on. -/
theorem add_map (key : κ) (x : α) (keys : List κ) (members : κ → List α) (distinct : keys.Nodup)
    (fresh : key ∉ keys → members key = []) :
    add (· == ·) key x (keys.map fun k => (k, members k)) =
      (if key ∈ keys then keys else keys ++ [key]).map fun k =>
        (k, if k == key then members k ++ [x] else members k) := by
  induction keys with
  | nil => simp [add, fresh]
  | cons k keys ih =>
    have parts := List.nodup_cons.mp distinct
    by_cases same : k = key
    · subst k
      have others : keys.map (fun k => (k, if k == key then members k ++ [x] else members k)) =
          keys.map fun k => (k, members k) := by
        apply List.map_congr_left
        intro k member
        have apart : k ≠ key := fun same => parts.1 (same ▸ member)
        simp [apart]
      simp [add, others]
    · have rest := ih parts.2 fun absent => fresh (by simp [absent, Ne.symm same])
      simp only [List.map_cons, add, beq_false_of_ne same, rest]
      by_cases member : key ∈ keys <;> simp [member, same, Ne.symm same]

/-- The buckets of a list, without the loop that fills them. -/
theorem ofList_eq (key : α → κ) (xs : List α) :
    ofList key xs =
      (xs.map key).eraseDups.map fun k => (k, xs.filter fun x => k == key x) := by
  induction xs using List.reverseRecOn with
  | nil => rfl
  | append_singleton xs x ih =>
    rw [ofList_concat, ih, add_map _ _ _ _ (nodup_eraseDups _)]
    · rw [List.map_append, List.map_singleton, eraseDups_concat]
      simp only [List.mem_eraseDups, List.filter_append]
      apply List.map_congr_left
      intro k _
      by_cases same : k = key x <;> simp [same]
    · intro absent
      rw [List.mem_eraseDups] at absent
      simp only [List.filter_eq_nil_iff, beq_iff_eq]
      intro y member same
      exact absent (same ▸ List.mem_map_of_mem member)

/-- A bucket as a choice among the elements of the list. -/
theorem filter_key [DecidableEq κ] (key : α → κ) (k : κ) (xs : List α) :
    (xs.filter fun x => k == key x) = xs.filter fun x => key x = k := by
  apply List.filter_congr
  intro x _
  rw [Bool.eq_iff_iff, beq_iff_eq, decide_eq_true_eq]
  exact eq_comm

theorem ofList_ordered (key : α → κ) (xs : List α) :
    (ofList key xs).Pairwise fun a b => (xs.map key).idxOf a.1 < (xs.map key).idxOf b.1 := by
  rw [ofList_eq, List.pairwise_map]
  exact eraseDups_ordered _

end CloneScan.Buckets
