import CloneScan.Proofs.Specimen
import Mathlib.Algebra.Ring.Int.Defs

/-! When the members of a group agree. The normal form of a window does not tell its length, so
windows of several sizes meet in one group, and even at one place. Groups are coherent on all trees
exactly if the settings have one window size that is met at most once at a place. -/
namespace CloneScan

/-- Where a block starts. -/
def Block.place (b : Block) : String × Int := (b.file, b.startLine)

/-- All members are as long as the first one, and no place is counted twice. -/
structure Group.Coherent (g : Group) : Prop where
  lengths : ∀ b ∈ g.blocks, b.lineCount = g.lineCount
  places : (g.blocks.map Block.place).Nodup

/-- The impact of a coherent group is the number of lines in its members. -/
theorem Group.Coherent.impact_eq_sum {g : Group} (coherent : g.Coherent) :
    g.impact = (g.blocks.map Block.lineCount).sum := by
  have lengths : g.blocks.map Block.lineCount = List.replicate g.count g.lineCount := by
    refine List.eq_replicate_iff.mpr ⟨by simp [Group.count], ?_⟩
    intro count member
    obtain ⟨b, inside, rfl⟩ := List.mem_map.mp member
    exact coherent.lengths b inside
  rw [lengths, List.sum_replicate_int, Group.impact]

/-- One size, listed once or under a limit of one block. -/
structure Settings.SingleWindow (settings : Settings) : Prop where
  sizes : ∀ u ∈ settings.blockSizes, ∀ v ∈ settings.blockSizes, u = v
  once : settings.blockSizes.length = 1 ∨ settings.maxBlocksPerFile.val = 1

namespace Scan

theorem starts_nodup {settings : Settings} (single : settings.SingleWindow)
    (lines : List (List Char)) :
    (((acceptedPositions settings lines).take settings.maxBlocksPerFile.val).map
      Position.start).Nodup := by
  rcases single.once with listed | limit
  · obtain ⟨size, sizes⟩ := List.length_eq_one_iff.mp listed
    have all : (positions settings.blockSizes lines.length).map Position.start =
        List.range (lines.length - size.val) := by
      simp [positions, sizes, Function.comp_def]
    have kept : List.Sublist
        ((acceptedPositions settings lines).take settings.maxBlocksPerFile.val)
        (positions settings.blockSizes lines.length) :=
      (List.take_sublist _ _).trans List.filter_sublist
    have starts := kept.map Position.start
    rw [all] at starts
    exact List.nodup_range.sublist starts
  · rw [limit]
    cases acceptedPositions settings lines with
    | nil => exact List.nodup_nil
    | cons p rest => exact List.nodup_singleton p.start

theorem places_ofSource_nodup {settings : Settings} (single : settings.SingleWindow)
    (s : Node.Source) : ((ofSource settings s).blocks.map Block.place).Nodup := by
  cases text : s.lines? with
  | none =>
    have nothing : (ofSource settings s).blocks = [] := by
      refine List.eq_nil_iff_forall_not_mem.mpr fun b member => ?_
      obtain ⟨lines, read, _⟩ := mem_ofSource_blocks member
      rw [text] at read
      cases read
    rw [nothing]
    exact List.nodup_nil
  | some lines =>
    rw [ofSource_blocks text, List.map_map]
    have injective : Function.Injective fun start : Nat => (s.path, (start : Int) + 1) := by
      intro i j same
      have starts := (Prod.mk.inj same).2
      omega
    have starts := (starts_nodup single lines).map injective
    rw [List.map_map] at starts
    exact starts

end Scan

theorem Index.places_nodup {settings : Settings} {sources : List Node.Source}
    (single : settings.SingleWindow) (paths : (sources.map Node.Source.path).Nodup) :
    ((Index.ofSources settings sources).blocks.map Block.place).Nodup := by
  rw [blocks_ofSources, List.map_flatMap, List.nodup_flatMap]
  refine ⟨fun s _ => Scan.places_ofSource_nodup single s, ?_⟩
  rw [List.Nodup, List.pairwise_map] at paths
  refine paths.imp fun apart place left right => ?_
  obtain ⟨b, hb, rfl⟩ := List.mem_map.mp left
  obtain ⟨c, hc, same⟩ := List.mem_map.mp right
  obtain ⟨_, _, _, _, rfl⟩ := Scan.mem_ofSource_blocks hb
  obtain ⟨_, _, _, _, rfl⟩ := Scan.mem_ofSource_blocks hc
  exact apart (Prod.mk.inj same).1.symm

theorem Settings.SingleWindow.coherent {settings : Settings} {sources : List Node.Source}
    {shown : String} {g : Group} (single : settings.SingleWindow)
    (paths : (sources.map Node.Source.path).Nodup)
    (grouped : g ∈ (Analysis.ofIndex settings shown
      (Index.ofSources settings sources)).report.groups) : g.Coherent := by
  have members := (Analysis.mem_groups grouped).1
  have length (b : Block) (inside : b ∈ g.blocks) :
      ∃ size ∈ settings.blockSizes, b.lineCount = size.val := by
    rw [members, Group.mem_membersOf] at inside
    exact Index.lineCount_listed inside.1
  constructor
  · intro b inside
    obtain ⟨u, hu, left⟩ := length b inside
    obtain ⟨v, hv, right⟩ := length g.representative List.mem_cons_self
    rw [Group.lineCount, left, right, single.sizes u hu v hv]
  · have places := Index.places_nodup single paths
    rw [members]
    exact places.sublist (List.filter_sublist.map Block.place)

namespace Scan

variable {settings : Settings}

theorem Ends.length_acceptedPositions {e : Ends settings.minTokens.val} (kept : e.Kept n)
    (sizes : ∀ size ∈ settings.blockSizes, size.val = n) :
    (acceptedPositions settings (e.file n)).length = settings.blockSizes.length := by
  have all : positions settings.blockSizes (e.file n).length =
      settings.blockSizes.map fun _ => ⟨n, 0⟩ := by
    rw [positions, e.length_file kept.positive, List.map_eq_flatMap]
    apply List.flatMap_congr
    intro size member
    simp [sizes size member]
  have passes := (mem_acceptedPositions.mp (mem_acceptedPositions_file kept)).2.2
  rw [acceptedPositions, all, List.filter_eq_self.mpr, List.length_map]
  intro p member
  obtain ⟨_, _, rfl⟩ := List.mem_map.mp member
  exact passes

end Scan

/-- Groups are coherent on every tree, and their impact is the sum of the lengths of their members,
exactly if no tree has any files to scan or there is a single window size. -/
theorem groups_coherent_iff (settings : Settings) :
    (∀ d root shown a, d.top.WellNamed → Analysis.run settings d root shown = .ok a →
      ∀ g ∈ a.report.groups,
        g.Coherent ∧ g.impact = (g.blocks.map Block.lineCount).sum) ↔
    ¬ settings.Scans ∨ settings.SingleWindow := by
  constructor
  · intro coherent
    by_cases scans : settings.Scans
    · right
      obtain ⟨wanted, excluded, name, lowered, names, valid, chosen⟩ := scans
      have twins (u v : Positive) (hu : u ∈ settings.blockSizes) (hv : v ∈ settings.blockSizes) :=
        Scan.Ends.pair_reported lowered names chosen (Scan.Spelling.plain_kept u hu)
          (Scan.Spelling.plain_kept v hv) (Scan.Spelling.plain_normalForm _ _ _) ""
      -- Copies of different lengths would be members of one group.
      have sizes : ∀ u ∈ settings.blockSizes, ∀ v ∈ settings.blockSizes, u = v := by
        intro u hu v hv
        obtain ⟨a, run, g, grouped, left, right, _⟩ := twins u v hu hv
        have lengths := (coherent _ _ _ a (Disk.pair_wellNamed valid _ _) run g grouped).1.lengths
        have same := (lengths _ left).trans (lengths _ right).symm
        rw [Scan.Ends.lineCount_block _ u.property, Scan.Ends.lineCount_block _ v.property] at same
        exact Subtype.ext (Int.ofNat_inj.mp same)
      refine ⟨sizes, ?_⟩
      -- A size that is listed twice is met twice at one place, if the limit leaves room for it.
      obtain ⟨u, hu⟩ := List.exists_mem_of_ne_nil _ settings.blockSizes_ne_nil
      obtain ⟨a, run, g, grouped, _, _, scanned⟩ := twins u u hu hu
      have places := (coherent _ _ _ a (Disk.pair_wellNamed valid _ _) run g grouped).1.places
      have kept : (Scan.Spelling.plain.ends settings.minTokens.val).Kept u.val :=
        Scan.Spelling.plain_kept u hu
      have once := places.sublist (scanned.map Block.place)
      rw [Scan.Ends.blocks_file kept, List.map_replicate, List.nodup_replicate,
        Scan.Ends.length_acceptedPositions kept
          fun v hv => congrArg Subtype.val (sizes v hv u hu)] at once
      have listed := List.length_pos_of_mem hu
      have limit := settings.maxBlocksPerFile.property
      omega
    · exact .inl scans
  · rintro condition d root shown a valid run g grouped
    obtain ⟨_, sources, found, rfl⟩ := Analysis.run_eq_ok_iff.mp run
    rcases condition with unscanned | single
    · have inside : g.representative ∈ g.blocks := List.mem_cons_self
      rw [(Analysis.mem_groups grouped).1, Group.mem_membersOf] at inside
      obtain ⟨s, member, _⟩ := Index.block_origin inside.1
      exact absurd (Discovery.scans_of_mem valid found member) unscanned
    · have coherent := single.coherent (Discovery.paths_nodup valid found) grouped
      exact ⟨coherent, coherent.impact_eq_sum⟩

/-- Under the default settings five lines and ten lines with the same words are in one group. -/
theorem default_group_incoherent :
    (Disk.copies 5 10).top.WellNamed ∧
    ∃ a, Analysis.run .default (Disk.copies 5 10) Path.here "." = .ok a ∧
      ∃ g ∈ a.report.groups, ¬ g.Coherent := by
  obtain ⟨a, run, g, grouped, left, right⟩ :=
    Disk.copies_reported ⟨5, by decide⟩ ⟨10, by decide⟩ (by decide) (by decide) "."
  refine ⟨Disk.copies_wellNamed 5 10, a, run, g, grouped, fun coherent => ?_⟩
  have same := (coherent.lengths _ left).trans (coherent.lengths _ right).symm
  rw [Scan.Ends.lineCount_block _ (by decide), Scan.Ends.lineCount_block _ (by decide)] at same
  exact absurd same (by decide)

end CloneScan
