import CloneScan.Group
import CloneScan.Proofs.Buckets
import CloneScan.Proofs.Location
import Mathlib.Data.List.Nodup

/-! What the groups of a list of blocks are: the blocks of one fingerprint, all of them and in their
order, for each fingerprint that is met at two places. The ranking only permutes them. -/
namespace CloneScan.Group

def membersOf (bs : List Block) (fingerprint : String) : List Block :=
  bs.filter fun b => fingerprint == b.fingerprint

@[simp] theorem mem_membersOf {bs : List Block} {fingerprint : String} {b : Block} :
    b ∈ membersOf bs fingerprint ↔ b ∈ bs ∧ b.fingerprint = fingerprint := by
  rw [membersOf, List.mem_filter, beq_iff_eq]
  exact and_congr_right fun _ => eq_comm

theorem buckets_eq (bs : List Block) :
    buckets bs = (bs.map (·.fingerprint)).eraseDups.map fun f => (f, membersOf bs f) :=
  Buckets.ofList_eq _ bs

theorem two_le_distinctLocations (g : Group) :
    2 ≤ g.distinctLocations ↔ ∃ b ∈ g.blocks, ∃ c ∈ g.blocks, b.locationKey ≠ c.locationKey := by
  rw [distinctLocations, Buckets.two_le_length_eraseDups]
  simp

/-- A bucket becomes the group of its members, or no group if they are all at one place. -/
theorem ofBucket?_eq_some {fingerprint : String} {members : List Block} {g : Group} :
    ofBucket? (fingerprint, members) = some g ↔
      g.fingerprint = fingerprint ∧ g.label = .none ∧ g.blocks = members ∧
        ∃ b ∈ members, ∃ c ∈ members, b.locationKey ≠ c.locationKey := by
  cases members with
  | nil => simp [ofBucket?, ofBlocks]
  | cons first rest =>
    have places := two_le_distinctLocations ⟨fingerprint, first, rest, .none⟩
    have count (b c : Block) (hb : b ∈ first :: rest) (hc : c ∈ first :: rest)
        (apart : b.locationKey ≠ c.locationKey) : 2 ≤ (first :: rest).length := by
      cases rest with
      | nil =>
        rw [List.mem_singleton.mp hb, List.mem_singleton.mp hc] at apart
        contradiction
      | cons => simp
    simp only [ofBucket?, ofBlocks]
    constructor
    · intro formed
      split at formed
      · rename_i large
        cases formed
        exact ⟨rfl, rfl, rfl, places.mp large.2⟩
      · cases formed
    · rintro ⟨same_fingerprint, unlabelled, members, b, hb, c, hc, apart⟩
      rw [if_pos ⟨count b c hb hc apart, places.mpr ⟨b, hb, c, hc, apart⟩⟩]
      cases g
      simp_all [blocks]

theorem mem_ofList {bs : List Block} {g : Group} :
    g ∈ ofList bs ↔ g.label = .none ∧ g.blocks = membersOf bs g.fingerprint ∧
      ∃ b ∈ g.blocks, ∃ c ∈ g.blocks, b.locationKey ≠ c.locationKey := by
  rw [ofList, (rankBy_perm _ _).mem_iff, buckets_eq, List.mem_filterMap]
  simp only [List.mem_map, List.mem_eraseDups]
  constructor
  · rintro ⟨bucket, ⟨f, member, rfl⟩, formed⟩
    obtain ⟨rfl, unlabelled, members, places⟩ := ofBucket?_eq_some.mp formed
    exact ⟨unlabelled, members, members ▸ places⟩
  · rintro ⟨unlabelled, members, b, hb, places⟩
    rw [members] at hb places
    refine ⟨_, ⟨g.fingerprint, ⟨b, mem_membersOf.mp hb⟩, rfl⟩, ?_⟩
    exact ofBucket?_eq_some.mpr ⟨rfl, unlabelled, members, b, hb, places⟩

/-- No fingerprint heads two groups. -/
theorem fingerprints_nodup (bs : List Block) : ((ofList bs).map (·.fingerprint)).Nodup := by
  have ranked := (rankBy_perm impact ((buckets bs).filterMap ofBucket?)).map (·.fingerprint)
  rw [ofList, ranked.nodup_iff, buckets_eq, List.map_filterMap, List.filterMap_map]
  refine List.Nodup.filterMap ?_ (Buckets.nodup_eraseDups _)
  intro f f' head left right
  obtain ⟨g, formed, rfl⟩ := Option.map_eq_some_iff.mp left
  obtain ⟨g', formed', same⟩ := Option.map_eq_some_iff.mp right
  rw [← (ofBucket?_eq_some.mp formed).1, ← (ofBucket?_eq_some.mp formed').1, same]

theorem exists_group {bs : List Block} {b c : Block} (hb : b ∈ bs) (hc : c ∈ bs)
    (same : b.fingerprint = c.fingerprint) (apart : b.locationKey ≠ c.locationKey) :
    ∃ g ∈ ofList bs, g.fingerprint = b.fingerprint ∧ b ∈ g.blocks ∧ c ∈ g.blocks := by
  have mb : b ∈ membersOf bs b.fingerprint := mem_membersOf.mpr ⟨hb, rfl⟩
  have mc : c ∈ membersOf bs b.fingerprint := mem_membersOf.mpr ⟨hc, same.symm⟩
  match members : membersOf bs b.fingerprint with
  | [] => simp [members] at mb
  | first :: rest =>
    rw [members] at mb mc
    refine ⟨⟨b.fingerprint, first, rest, .none⟩, ?_, rfl, mb, mc⟩
    exact mem_ofList.mpr ⟨rfl, members.symm, b, mb, c, mc, apart⟩

end CloneScan.Group
