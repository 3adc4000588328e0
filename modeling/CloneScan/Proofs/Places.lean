import CloneScan.Proofs.Ranking
import Mathlib.Data.Finset.Card

/-! Counting places. Grouping counts the texts of the places at which blocks start. As such a text tells
the file and the line, there are as many texts as places, and what is taken for a copy does not hang on
how paths are spelled. -/
namespace CloneScan

namespace Buckets

/-- Without repetitions a list is as long as it has different elements. -/
theorem length_eraseDups [BEq κ] [LawfulBEq κ] [DecidableEq κ] (keys : List κ) :
    keys.eraseDups.length = keys.toFinset.card := by
  have same : keys.eraseDups.toFinset = keys.toFinset := by
    ext key
    simp only [List.mem_toFinset, List.mem_eraseDups]
  rw [← same, List.toFinset_card_of_nodup (nodup_eraseDups keys)]

/-- Two keys that tell the same elements apart take equally many values. -/
theorem card_keys_congr [DecidableEq κ] [DecidableEq ν] {f : α → κ} {g : α → ν}
    (agree : ∀ x y, f x = f y ↔ g x = g y) (xs : List α) :
    (xs.map f).toFinset.card = (xs.map g).toFinset.card := by
  induction xs with
  | nil => rfl
  | cons x xs ih =>
    have known : f x ∈ xs.map f ↔ g x ∈ xs.map g := by simp only [List.mem_map, agree]
    simp only [List.map_cons, List.toFinset_cons]
    by_cases met : f x ∈ xs.map f
    · rw [Finset.insert_eq_of_mem (List.mem_toFinset.mpr met),
        Finset.insert_eq_of_mem (List.mem_toFinset.mpr (known.mp met)), ih]
    · rw [Finset.card_insert_of_notMem (mt List.mem_toFinset.mp met),
        Finset.card_insert_of_notMem (mt (known.mpr ∘ List.mem_toFinset.mp) met), ih]

end Buckets

namespace Group

/-- The different files and lines at which blocks start. -/
def starts (bs : List Block) : Finset (String × Int) :=
  (bs.map fun b => (b.file, b.startLine)).toFinset

theorem card_starts_le (bs : List Block) : (starts bs).card ≤ bs.length := by
  have bound := List.toFinset_card_le (bs.map fun b => (b.file, b.startLine))
  rwa [List.length_map] at bound

theorem distinctLocations_eq (g : Group) : g.distinctLocations = (starts g.blocks).card := by
  have agree (b c : Block) :
      b.locationKey = c.locationKey ↔ (b.file, b.startLine) = (c.file, c.startLine) := by
    rw [Block.locationKey_eq_iff, Prod.mk.injEq]
  rw [distinctLocations, Buckets.length_eraseDups]
  exact Buckets.card_keys_congr agree g.blocks

/-- A bucket becomes a group exactly if its blocks have two different starts. -/
theorem ofBucket?_isSome_iff (fingerprint : String) (members : List Block) :
    (ofBucket? (fingerprint, members)).isSome ↔ 2 ≤ (starts members).card := by
  cases members with
  | nil => simp [ofBucket?, ofBlocks, starts]
  | cons first rest =>
    have places := distinctLocations_eq { fingerprint, representative := first, others := rest }
    have enough := card_starts_le (first :: rest)
    simp only [ofBucket?, ofBlocks, places, count, blocks] at enough ⊢
    split
    next large => exact iff_of_true rfl large.2
    next small =>
      apply iff_of_false Bool.false_ne_true
      intro two
      exact small ⟨two.trans enough, two⟩

end Group

/-- Two blocks have one place as a text exactly if they have one file and one first line, and one
location exactly if they have the same last line, too. So a group has as many places as there are
files and first lines among its blocks, and a bucket becomes a group exactly if there are two. -/
theorem places_unambiguous :
    (∀ b c : Block, b.locationKey = c.locationKey ↔ b.file = c.file ∧ b.startLine = c.startLine) ∧
    (∀ b c : Block, b.location = c.location ↔
      b.file = c.file ∧ b.startLine = c.startLine ∧ b.endLine = c.endLine) ∧
    (∀ g : Group, g.distinctLocations = (Group.starts g.blocks).card) ∧
    ∀ fingerprint members, (Group.ofBucket? (fingerprint, members)).isSome ↔
      2 ≤ (Group.starts members).card :=
  ⟨Block.locationKey_eq_iff, Block.location_eq_iff, Group.distinctLocations_eq,
    Group.ofBucket?_isSome_iff⟩

end CloneScan
