import CloneScan.Proofs.Grouping

/-! The groups of a list of blocks as its ranked partition. Ranking puts the elements of a list in
order of worth and leaves those of equal worth in the order they had; with that, what a group holds
and where it stands leave no choice. -/
namespace CloneScan.Group

section Rank

variable (worth : α → Int)

theorem worth_trans (a b c : α) (left : decide (worth b ≤ worth a) = true)
    (right : decide (worth c ≤ worth b) = true) : decide (worth c ≤ worth a) = true := by
  rw [decide_eq_true_eq] at *
  exact Int.le_trans right left

theorem worth_total (a b : α) :
    (decide (worth b ≤ worth a) || decide (worth a ≤ worth b)) = true := by
  simpa using Int.le_total (worth b) (worth a)

theorem rankBy_descending (xs : List α) :
    (rankBy worth xs).Pairwise fun x y => worth y ≤ worth x :=
  (List.pairwise_mergeSort (worth_trans worth) (worth_total worth) xs).imp of_decide_eq_true

/-- Among the elements of one worth, ranking changes nothing. -/
theorem filter_rankBy (w : Int) (xs : List α) :
    (rankBy worth xs).filter (worth · = w) = xs.filter (worth · = w) := by
  have level : (xs.filter (worth · = w)).Pairwise
      fun x y => decide (worth y ≤ worth x) = true := by
    apply List.pairwise_of_forall_mem_list
    intro x hx y hy
    have left : worth x = w := by simpa using (List.mem_filter.mp hx).2
    have right : worth y = w := by simpa using (List.mem_filter.mp hy).2
    simp [left, right]
  have kept : List.Sublist (xs.filter (worth · = w)) (rankBy worth xs) :=
    List.sublist_mergeSort (worth_trans worth) (worth_total worth) level List.filter_sublist
  have inside : List.Sublist (xs.filter (worth · = w)) ((rankBy worth xs).filter (worth · = w)) := by
    simpa [List.filter_filter] using kept.filter (worth · = w)
  have count := ((rankBy_perm worth xs).filter (worth · = w)).length_eq
  exact (inside.eq_of_length count.symm).symm

/-- An order of the list lives on among elements of equal worth. -/
theorem rankBy_ties {before : α → α → Prop} {xs : List α} (ordered : xs.Pairwise before) :
    (rankBy worth xs).Pairwise fun x y => worth x = worth y → before x y := by
  rw [List.pairwise_iff_forall_sublist]
  intro x y both level
  have pair := both.filter (worth · = worth x)
  rw [filter_rankBy] at pair
  have listed : List.Sublist [x, y] xs := by
    simpa [level] using pair.trans List.filter_sublist
  exact List.pairwise_iff_forall_sublist.mp ordered listed

end Rank

/-- Where a fingerprint is first met. -/
def firstMet (bs : List Block) (fingerprint : String) : Nat :=
  (bs.map (·.fingerprint)).idxOf fingerprint

/-- The group as grouping leaves it; labels come later. -/
def bare (g : Group) : Group := { g with label := .none }

@[simp] theorem fingerprint_bare (g : Group) : g.bare.fingerprint = g.fingerprint := rfl

@[simp] theorem blocks_bare (g : Group) : g.bare.blocks = g.blocks := rfl

@[simp] theorem impact_bare (g : Group) : g.bare.impact = g.impact := rfl

theorem eq_of_unlabelled {g h : Group} (left : g.label = .none) (right : h.label = .none)
    (same : g.fingerprint = h.fingerprint) (members : g.blocks = h.blocks) : g = h := by
  obtain ⟨first, rest⟩ := List.cons.inj members
  cases g
  cases h
  simp_all

/-- A fingerprint heads one group if its blocks start at two places, and none otherwise. The group
holds all its blocks in their order, and groups stand by impact, then by where they are first met. -/
structure RankedPartition (bs : List Block) (gs : List Group) : Prop where
  reported : ∀ fingerprint, fingerprint ∈ gs.map (·.fingerprint) ↔
    ∃ b ∈ bs, ∃ c ∈ bs, b.fingerprint = fingerprint ∧ c.fingerprint = fingerprint ∧
      (b.file, b.startLine) ≠ (c.file, c.startLine)
  once : (gs.map (·.fingerprint)).Nodup
  members : ∀ g ∈ gs, g.blocks = bs.filter fun b => b.fingerprint = g.fingerprint
  ranked : gs.Pairwise fun g h => h.impact ≤ g.impact
  ties : gs.Pairwise fun g h =>
    g.impact = h.impact → firstMet bs g.fingerprint < firstMet bs h.fingerprint

theorem place_ne_iff (b c : Block) :
    (b.file, b.startLine) ≠ (c.file, c.startLine) ↔ b.locationKey ≠ c.locationKey := by
  rw [Ne, Ne, Block.locationKey_eq_iff, Prod.mk.injEq]

theorem membersOf_eq_filter (bs : List Block) (fingerprint : String) :
    membersOf bs fingerprint = bs.filter fun b => b.fingerprint = fingerprint :=
  Buckets.filter_key Block.fingerprint fingerprint bs

theorem ofList_reported (bs : List Block) (fingerprint : String) :
    fingerprint ∈ (ofList bs).map (·.fingerprint) ↔
      ∃ b ∈ bs, ∃ c ∈ bs, b.fingerprint = fingerprint ∧ c.fingerprint = fingerprint ∧
        (b.file, b.startLine) ≠ (c.file, c.startLine) := by
  constructor
  · intro listed
    obtain ⟨g, grouped, rfl⟩ := List.mem_map.mp listed
    obtain ⟨_, members, b, hb, c, hc, apart⟩ := mem_ofList.mp grouped
    rw [members, mem_membersOf] at hb hc
    exact ⟨b, hb.1, c, hc.1, hb.2, hc.2, (place_ne_iff b c).mpr apart⟩
  · rintro ⟨b, hb, c, hc, left, right, apart⟩
    obtain ⟨g, grouped, same, _⟩ :=
      exists_group hb hc (left.trans right.symm) ((place_ne_iff b c).mp apart)
    exact List.mem_map.mpr ⟨g, grouped, same.trans left⟩

/-- The groups are ranked with the buckets in the order in which their fingerprints are first met. -/
theorem ofList_ties (bs : List Block) : (ofList bs).Pairwise fun g h =>
    g.impact = h.impact → firstMet bs g.fingerprint < firstMet bs h.fingerprint := by
  refine rankBy_ties impact (List.pairwise_filterMap.mpr ?_)
  refine (Buckets.ofList_ordered _ bs).imp ?_
  intro a b before g formed h formed'
  rw [(ofBucket?_eq_some.mp formed).1, (ofBucket?_eq_some.mp formed').1]
  exact before

theorem rankedPartition_ofList (bs : List Block) : RankedPartition bs (ofList bs) where
  reported := ofList_reported bs
  once := fingerprints_nodup bs
  members := by
    intro g grouped
    rw [(mem_ofList.mp grouped).2.1, membersOf_eq_filter]
  ranked := rankBy_descending impact _
  ties := ofList_ties bs

/-- Labels have no say in what is a ranked partition. -/
theorem rankedPartition_bare (bs : List Block) (gs : List Group) :
    RankedPartition bs (gs.map bare) ↔ RankedPartition bs gs := by
  constructor
  · rintro ⟨reported, once, members, ranked, ties⟩
    simp only [List.map_map, List.forall_mem_map, List.pairwise_map] at *
    exact ⟨reported, once, members, ranked, ties⟩
  · rintro ⟨reported, once, members, ranked, ties⟩
    constructor
    all_goals simp only [List.map_map, List.forall_mem_map, List.pairwise_map]
    · exact reported
    · exact once
    · exact members
    · exact ranked
    · exact ties

theorem RankedPartition.mem_iff {bs : List Block} {gs : List Group}
    (valid : RankedPartition bs gs) (plain : ∀ g ∈ gs, g.label = .none) (g : Group) :
    g ∈ gs ↔ g ∈ ofList bs := by
  constructor
  · intro listed
    have reported := (valid.reported g.fingerprint).mp (List.mem_map_of_mem listed)
    obtain ⟨b, hb, c, hc, left, right, apart⟩ := reported
    have members := (valid.members g listed).trans (membersOf_eq_filter bs _).symm
    refine mem_ofList.mpr ⟨plain g listed, members, b, ?_, c, ?_, (place_ne_iff b c).mp apart⟩
    · rw [members, mem_membersOf]
      exact ⟨hb, left⟩
    · rw [members, mem_membersOf]
      exact ⟨hc, right⟩
  · intro grouped
    have unlabelled := (mem_ofList.mp grouped).1
    have reported := (ofList_reported bs g.fingerprint).mp (List.mem_map_of_mem grouped)
    obtain ⟨h, listed, same⟩ := List.mem_map.mp ((valid.reported _).mpr reported)
    have members : h.blocks = g.blocks := by
      rw [valid.members h listed, same, (rankedPartition_ofList bs).members g grouped]
    exact eq_of_unlabelled (plain h listed) unlabelled same members ▸ listed

/-- Two lists with the same members, both in ranked order, are one list: no two groups tie both by
impact and by where they are first met. -/
theorem RankedPartition.eq_ofList {bs : List Block} {gs : List Group}
    (valid : RankedPartition bs gs) (plain : ∀ g ∈ gs, g.label = .none) : gs = ofList bs := by
  have own := rankedPartition_ofList bs
  have perm : gs.Perm (ofList bs) :=
    (List.perm_ext_iff_of_nodup (List.Nodup.of_map _ valid.once) (List.Nodup.of_map _ own.once)).mpr
      (valid.mem_iff plain)
  refine List.Perm.eq_of_pairwise ?_ (valid.ranked.and valid.ties) (own.ranked.and own.ties) perm
  rintro g h _ _ ⟨above, before⟩ ⟨below, after⟩
  have level : g.impact = h.impact := Int.le_antisymm below above
  exact absurd (before level) (Nat.lt_asymm (after level.symm))

/-- The groups of a list are its ranked partition, and there is no other: lists of groups with these
properties differ from it in labels at most. -/
theorem ofList_only_rankedPartition (bs : List Block) :
    RankedPartition bs (ofList bs) ∧
      ∀ gs, RankedPartition bs gs ↔ gs.map bare = ofList bs := by
  refine ⟨rankedPartition_ofList bs, fun gs => ?_⟩
  rw [← rankedPartition_bare]
  constructor
  · intro valid
    exact valid.eq_ofList (List.forall_mem_map.mpr fun g _ => rfl)
  · intro same
    rw [same]
    exact rankedPartition_ofList bs

end CloneScan.Group
