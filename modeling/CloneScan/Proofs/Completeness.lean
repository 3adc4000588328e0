import CloneScan.Proofs.Specimen
import Mathlib.Data.List.Count

/-! No copy that the filters and the limit admit is lost. Two windows of one normal form at two places
are members of one group of the report, and of no other, whatever their sizes and files. -/
namespace CloneScan

structure Node.Source.Offers (settings : Settings) (s : Node.Source) (lines : List (List Char))
    (p : Scan.Position) : Prop where
  text : s.lines? = some lines
  whole : (Scan.ofSource settings s).truncated = false
  size : ∃ size ∈ settings.blockSizes, size.val = p.size
  bound : p.start + p.size < lines.length
  accepted : Scan.accepts settings.minTokens.val (p.window lines) = true

def Report.together (r : Report) (b c : Block) : Nat :=
  r.groups.countP fun g => b ∈ g.blocks ∧ c ∈ g.blocks

/-- A window inside lines that two files share is the same window in both. -/
theorem Scan.window_of_shared {ls lt : List (List Char)} {i j n : Nat}
    (shared : (ls.drop i).take n = (lt.drop j).take n) {k size : Nat} (inside : k + size ≤ n) :
    Position.window ⟨size, i + k⟩ ls = Position.window ⟨size, j + k⟩ lt := by
  have part (lines : List (List Char)) (start : Nat) :
      Position.window ⟨size, start + k⟩ lines = (((lines.drop start).take n).drop k).take size := by
    have fits : size ≤ n - k := by omega
    rw [Position.window, List.drop_take, List.take_take, List.drop_drop, Nat.min_eq_left fits]
  rw [part, part, shared]

theorem Node.Source.Offers.mem_blocks {settings : Settings} {sources : List Node.Source}
    {s : Node.Source} {lines : List (List Char)} {p : Scan.Position} (member : s ∈ sources)
    (offered : s.Offers settings lines p) :
    p.block s.path lines ∈ (Index.ofSources settings sources).blocks := by
  refine Index.mem_blocks_ofSources.mpr ⟨s, member, ?_⟩
  rw [Scan.ofSource_blocks_of_untruncated offered.text offered.whole]
  apply List.mem_map_of_mem
  exact Scan.mem_acceptedPositions.mpr ⟨offered.size, offered.bound, offered.accepted⟩

theorem Analysis.together_eq_one {settings : Settings} {shown : String} {index : Index}
    {b c : Block} (hb : b ∈ index.blocks) (hc : c ∈ index.blocks)
    (same : b.fingerprint = c.fingerprint) (apart : b.locationKey ≠ c.locationKey) :
    (ofIndex settings shown index).report.together b c = 1 := by
  obtain ⟨g, grouped, left, right⟩ : ∃ g ∈ (ofIndex settings shown index).report.groups,
      b ∈ g.blocks ∧ c ∈ g.blocks := exists_group hb hc same apart
  have nodup := List.Nodup.of_map _ (fingerprints_nodup settings shown index)
  have only : ∀ h ∈ (ofIndex settings shown index).report.groups,
      (b ∈ h.blocks ∧ c ∈ h.blocks ↔ h = g) := by
    intro h other
    constructor
    · rintro ⟨inside, _⟩
      exact eq_of_mem_blocks other grouped inside left
    · rintro rfl
      exact ⟨left, right⟩
  rw [Report.together, ← List.count_eq_one_of_mem nodup grouped, List.count]
  apply List.countP_congr
  intro h member
  simpa using only h member

theorem Scan.Ends.Kept.offers {settings : Settings} {e : Ends settings.minTokens.val} (kept : e.Kept n)
    (few : (positions settings.blockSizes (n + 1)).length ≤ settings.maxBlocksPerFile.val)
    (place : Location) :
    (Node.Source.ofLines place (e.file n)).Offers settings (e.file n) ⟨n, 0⟩ := by
  obtain ⟨size, bound, accepted⟩ := mem_acceptedPositions.mp (mem_acceptedPositions_file kept)
  have text := e.lines?_file n place
  refine ⟨text, ofSource_whole text ?_, size, bound, accepted⟩
  rw [e.length_file kept.positive]
  exact few

/-- A run over a directory reports every pair of copies once: two windows of one normal form that
start at two places. So does it with every window inside lines that two files share. -/
theorem copies_reported_once {settings : Settings} {d : Disk} {root : Path}
    (searchable : settings.Searchable) (directory : d.isDirectory root = .ok true)
    (shown : String) :
    ∃ sources a,
      Discovery.find d root settings.extensions settings.excludedDirs = .ok sources ∧
      Analysis.run settings d root shown = .ok a ∧
      (d.top.WellNamed → (sources.map Node.Source.path).Nodup) ∧
      (∀ s ∈ sources, ∀ t ∈ sources, ∀ ls lt p q,
        s.Offers settings ls p → t.Offers settings lt q →
        (s.path, p.start) ≠ (t.path, q.start) →
        Source.normalForm (Text.unlines (p.window ls)) =
          Source.normalForm (Text.unlines (q.window lt)) →
        a.report.together (p.block s.path ls) (q.block t.path lt) = 1) ∧
      (∀ s ∈ sources, ∀ t ∈ sources, ∀ ls lt i j n k size,
        (ls.drop i).take n = (lt.drop j).take n → k + size ≤ n →
        s.Offers settings ls ⟨size, i + k⟩ →
        t.lines? = some lt → (Scan.ofSource settings t).truncated = false →
        j + k + size < lt.length → (s.path, i) ≠ (t.path, j) →
        a.report.together (Scan.Position.block s.path ls ⟨size, i + k⟩)
          (Scan.Position.block t.path lt ⟨size, j + k⟩) = 1) := by
  obtain ⟨sources, found⟩ := Discovery.find_ok searchable directory
  let a := Analysis.ofIndex settings shown (Index.ofSources settings sources)
  have windows : ∀ s ∈ sources, ∀ t ∈ sources, ∀ ls lt p q,
      s.Offers settings ls p → t.Offers settings lt q → (s.path, p.start) ≠ (t.path, q.start) →
      Source.normalForm (Text.unlines (p.window ls)) =
        Source.normalForm (Text.unlines (q.window lt)) →
      a.report.together (p.block s.path ls) (q.block t.path lt) = 1 := by
    intro s hs t ht ls lt p q left right apart same
    refine Analysis.together_eq_one (left.mem_blocks hs) (right.mem_blocks ht)
      (Scan.fingerprint_eq_of_normalForm same) ?_
    -- Blocks are told apart by file and first line, even if one holds the other.
    intro key
    obtain ⟨file, line⟩ := (Block.locationKey_eq_iff _ _).mp key
    apply apart
    simp only [Scan.Position.block, Scan.block] at file line
    exact Prod.ext file (by omega)
  refine ⟨sources, a, found, ?_, fun named => Discovery.paths_nodup named found, windows, ?_⟩
  · exact Analysis.run_eq_ok_iff.mpr ⟨directory, sources, found, rfl⟩
  · intro s hs t ht ls lt i j n k size shared inside left text whole bound apart
    -- The other file offers the window too: the filters look at nothing but its lines.
    have window := Scan.window_of_shared shared inside
    have right : t.Offers settings lt ⟨size, j + k⟩ :=
      ⟨text, whole, left.size, bound, window ▸ left.accepted⟩
    refine windows s hs t ht ls lt _ _ left right ?_ (by rw [window])
    intro same
    obtain ⟨file, line⟩ := Prod.mk.inj same
    exact apart (Prod.ext file (by simp only at line; omega))

/-- Two files of five lines with the same words are together in one group. -/
theorem copies_together_once :
    Settings.default.Searchable ∧ (Disk.copies 5 5).isDirectory Path.here = .ok true ∧
    ∃ a, Analysis.run .default (Disk.copies 5 5) Path.here "." = .ok a ∧
      a.report.together ((Scan.Spelling.plain.ends 50).block 5 ["a.ts"])
        ((Scan.Spelling.plain.ends 50).block 5 ["." ++ "a.ts"]) = 1 := by
  have searchable := Settings.default_searchable
  have directory : (Disk.copies 5 5).isDirectory Path.here = .ok true := Disk.pair_isDirectory _ _ _
  have kept : (Scan.Spelling.plain.ends Settings.default.minTokens.val).Kept 5 :=
    Scan.Spelling.plain_kept ⟨5, by decide⟩ (by decide)
  have few : (Scan.positions Settings.default.blockSizes (5 + 1)).length ≤
      Settings.default.maxBlocksPerFile.val := by decide
  obtain ⟨sources, a, found, run, _, windows, _⟩ := copies_reported_once searchable directory "."
  obtain ⟨again, refound, hs, ht⟩ := Disk.find_copies 5 5
  obtain rfl : sources = again := Except.ok.inj (found.symm.trans refound)
  refine ⟨searchable, directory, a, run, ?_⟩
  refine windows _ hs _ ht _ _ _ _ (kept.offers few _) (kept.offers few _) ?_ rfl
  decide

end CloneScan
