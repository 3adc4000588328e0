import CloneScan.Analysis
import CloneScan.Proofs.Assembly
import CloneScan.Proofs.Grouping
import CloneScan.Proofs.Lines
import CloneScan.Proofs.Scanning
import CloneScan.Proofs.SourceTree

/-! A run from the tree to the groups. The blocks of a run are windows of the lines of found files, in
the order of the files, and its groups are the labelled groups of these blocks. -/
namespace CloneScan

/-- The lines of a file that is text. -/
def Node.Source.lines? (s : Node.Source) : Option (List (List Char)) :=
  match Text.Utf8.decode s.content with
  | .ok text => some (Text.lines (Text.unifyNewlines text.toList))
  | .error _ => none

theorem Node.Source.lines?_eq_some {s : Node.Source} {lines : List (List Char)}
    (text : s.lines? = some lines) :
    ∃ t, Text.Utf8.decode s.content = .ok t ∧ lines = Text.lines (Text.unifyNewlines t.toList) := by
  cases decoded : Text.Utf8.decode s.content with
  | error fault => simp [lines?, decoded] at text
  | ok t => exact ⟨t, rfl, by simpa [lines?, decoded] using text.symm⟩

theorem Node.Source.newline_not_mem (s : Node.Source) {lines : List (List Char)}
    (text : s.lines? = some lines) : ∀ l ∈ lines, '\n' ∉ l := by
  obtain ⟨t, _, rfl⟩ := lines?_eq_some text
  exact Text.newline_not_mem_lines _

/-- What a search asks of the settings: extensions are texts, and directories are excluded by keys. -/
structure Settings.Searchable (settings : Settings) : Prop where
  extensions : ∀ v ∈ settings.extensions, ∃ s, v = .text s
  excludedDirs : ∀ v ∈ settings.excludedDirs, v.isKey = true

theorem Discovery.lowerExtensions_ok {vs : List Value} (texts : ∀ v ∈ vs, ∃ s, v = .text s) :
    ∃ wanted, lowerExtensions vs = .ok wanted := by
  induction vs with
  | nil => exact ⟨[], rfl⟩
  | cons v vs ih =>
    obtain ⟨s, rfl⟩ := texts v List.mem_cons_self
    obtain ⟨wanted, rest⟩ := ih fun w member => texts w (List.mem_cons_of_mem _ member)
    exact ⟨Text.lower s.toList :: wanted, by rw [lowerExtensions, rest]; rfl⟩

theorem Discovery.excludedNames_ok {vs : List Value} (keys : ∀ v ∈ vs, v.isKey = true) :
    ∃ excluded, excludedNames vs = .ok excluded := by
  induction vs with
  | nil => exact ⟨[], rfl⟩
  | cons v vs ih =>
    obtain ⟨excluded, rest⟩ := ih fun w member => keys w (List.mem_cons_of_mem _ member)
    have key := keys v List.mem_cons_self
    cases v with
    | text s => exact ⟨s :: excluded, by rw [excludedNames, rest]; rfl⟩
    | list items => cases key
    | record fields => cases key
    | null | bool | int | float | moment =>
      exact ⟨excluded, by rw [excludedNames, if_pos key, rest]; nofun⟩

/-- A path with a null character leads nowhere. -/
theorem Disk.hasNull_of_isDirectory {d : Disk} {root : Path}
    (directory : d.isDirectory root = .ok true) : root.hasNull = false := by
  cases null : root.hasNull with
  | false => rfl
  | true => simp [isDirectory, look, node?, locate, null, Except.map] at directory

theorem Discovery.find_ok {settings : Settings} {d : Disk} {root : Path}
    (searchable : settings.Searchable) (directory : d.isDirectory root = .ok true) :
    ∃ sources, find d root settings.extensions settings.excludedDirs = .ok sources := by
  obtain ⟨wanted, lowered⟩ := lowerExtensions_ok searchable.extensions
  obtain ⟨excluded, names⟩ := excludedNames_ok searchable.excludedDirs
  rw [find, lowered, names, Disk.hasNull_of_isDirectory directory]
  cases d.node? root with
  | none => exact ⟨[], rfl⟩
  | some top => exact ⟨_, rfl⟩

theorem Discovery.find_eq_ok {d : Disk} {root : Path} {extensions excluded : List Value}
    {sources : List Node.Source} (found : find d root extensions excluded = .ok sources) :
    sources = [] ∨ ∃ top place wanted names, d.top.at? place = some top ∧
      lowerExtensions extensions = .ok wanted ∧ excludedNames excluded = .ok names ∧
      sources = top.sources (isWanted wanted) fun name => !names.contains name := by
  rw [find] at found
  cases lowered : lowerExtensions extensions with
  | error f => rw [lowered] at found; cases found
  | ok wanted =>
    cases kept : excludedNames excluded with
    | error f => rw [lowered, kept] at found; cases found
    | ok names =>
      cases null : root.hasNull with
      | true => rw [lowered, kept, null] at found; cases found
      | false =>
        rw [lowered, kept, null] at found
        cases located : d.locate root with
        | error cause =>
          simp only [Disk.node?, located] at found
          exact .inl (Except.ok.inj found).symm
        | ok place =>
          simp only [Disk.node?, located] at found
          cases at_place : d.top.at? place with
          | none =>
            rw [at_place] at found
            exact .inl (Except.ok.inj found).symm
          | some top =>
            rw [at_place] at found
            exact .inr ⟨top, place, wanted, names, at_place, rfl, rfl, (Except.ok.inj found).symm⟩

theorem Discovery.paths_nodup {d : Disk} {root : Path} {extensions excluded : List Value}
    {sources : List Node.Source} (valid : d.top.WellNamed)
    (found : find d root extensions excluded = .ok sources) :
    (sources.map Node.Source.path).Nodup := by
  rcases find_eq_ok found with rfl | ⟨top, place, wanted, names, at_place, _, _, rfl⟩
  · exact List.nodup_nil
  · have below := Node.wellNamed_at? valid at_place
    exact Node.paths_nodup _ _ _ below

/-- Whether the settings have a search find anything anywhere: some name of a file is wanted. -/
def Settings.Scans (settings : Settings) : Prop :=
  ∃ wanted excluded name, Discovery.lowerExtensions settings.extensions = .ok wanted ∧
    Discovery.excludedNames settings.excludedDirs = .ok excluded ∧
    Node.IsName name ∧ Discovery.isWanted wanted name = true

theorem Discovery.scans_of_mem {settings : Settings} {d : Disk} {root : Path}
    {sources : List Node.Source} (valid : d.top.WellNamed)
    (found : find d root settings.extensions settings.excludedDirs = .ok sources)
    (member : s ∈ sources) : settings.Scans := by
  rcases find_eq_ok found with rfl | ⟨top, place, wanted, names, at_place, lowered, kept, rfl⟩
  · cases member
  · have placed := Node.sources_placed _ _ top (Node.wellNamed_at? valid at_place) s member
    obtain ⟨above, name, split, chosen⟩ := placed.own
    exact ⟨wanted, names, name, lowered, kept, placed.names name (by simp [split]), chosen⟩

namespace Scan

/-- A file that is text is scanned by its lines. -/
theorem ofSource_eq (settings : Settings) {s : Node.Source} {lines : List (List Char)}
    (text : s.lines? = some lines) :
    ∃ t, Text.lines t = lines ∧ ofSource settings s = ofText settings s.path t := by
  obtain ⟨t, decoded, rfl⟩ := Node.Source.lines?_eq_some text
  exact ⟨Text.unifyNewlines t.toList, rfl, by simp only [ofSource, decoded, Node.Source.path]⟩

theorem ofSource_blocks {settings : Settings} {s : Node.Source} {lines : List (List Char)}
    (text : s.lines? = some lines) :
    (ofSource settings s).blocks =
      ((acceptedPositions settings lines).take settings.maxBlocksPerFile.val).map
        (Position.block s.path lines) := by
  obtain ⟨t, rfl, scan⟩ := ofSource_eq settings text
  rw [scan, blocks_ofText]

theorem ofSource_blocks_of_untruncated {settings : Settings} {s : Node.Source}
    {lines : List (List Char)} (text : s.lines? = some lines)
    (whole : (ofSource settings s).truncated = false) :
    (ofSource settings s).blocks =
      (acceptedPositions settings lines).map (Position.block s.path lines) := by
  obtain ⟨t, rfl, scan⟩ := ofSource_eq settings text
  rw [scan] at whole ⊢
  exact blocks_of_untruncated _ _ _ whole

theorem ofSource_whole {settings : Settings} {s : Node.Source} {lines : List (List Char)}
    (text : s.lines? = some lines)
    (few : (positions settings.blockSizes lines.length).length ≤ settings.maxBlocksPerFile.val) :
    (ofSource settings s).truncated = false := by
  obtain ⟨t, rfl, scan⟩ := ofSource_eq settings text
  rw [scan]
  exact collect_whole _ _ _ _ few

theorem mem_ofSource_blocks {settings : Settings} {s : Node.Source} {b : Block}
    (member : b ∈ (ofSource settings s).blocks) :
    ∃ lines, s.lines? = some lines ∧ ∃ p ∈ acceptedPositions settings lines,
      p.block s.path lines = b := by
  cases text : s.lines? with
  | none =>
    cases decoded : Text.Utf8.decode s.content with
    | error fault => simp [ofSource, decoded, unreadable] at member
    | ok t => simp [Node.Source.lines?, decoded] at text
  | some lines =>
    rw [ofSource_blocks text] at member
    obtain ⟨p, taken, same⟩ := List.mem_map.mp member
    exact ⟨lines, rfl, p, List.mem_of_mem_take taken, same⟩

end Scan

namespace Index

/-- Neither the workers nor the order in which they complete the files leave a trace. -/
theorem ofSourcesIn_eq (settings : Settings) {sources : List Node.Source} {order : List Nat}
    (all : order.Perm (List.range sources.length)) :
    ofSourcesIn order settings sources = ⟨sources.map (Scan.ofSource settings)⟩ := by
  rw [ofSourcesIn]
  split
  · rw [Assembly.oneByOne_eq_map]
  · rw [Assembly.sideBySide_eq _ _ _ all, Assembly.oneByOne_eq_map]

theorem ofSources_eq (settings : Settings) (sources : List Node.Source) :
    ofSources settings sources = ⟨sources.map (Scan.ofSource settings)⟩ :=
  ofSourcesIn_eq settings (List.Perm.refl _)

theorem blocks_ofSources (settings : Settings) (sources : List Node.Source) :
    (ofSources settings sources).blocks =
      sources.flatMap fun s => (Scan.ofSource settings s).blocks := by
  rw [ofSources_eq, blocks, List.flatMap_map]

theorem mem_blocks_ofSources {settings : Settings} {sources : List Node.Source} {b : Block} :
    b ∈ (ofSources settings sources).blocks ↔
      ∃ s ∈ sources, b ∈ (Scan.ofSource settings s).blocks := by
  rw [blocks_ofSources, List.mem_flatMap]

theorem blocks_sublist (settings : Settings) {sources : List Node.Source} {s : Node.Source}
    (member : s ∈ sources) :
    List.Sublist (Scan.ofSource settings s).blocks (ofSources settings sources).blocks := by
  rw [blocks_ofSources]
  exact List.sublist_flatten_of_mem (List.mem_map_of_mem member)

/-- Every block of an index is an accepted window of a found file. -/
theorem block_origin {settings : Settings} {sources : List Node.Source} {b : Block}
    (member : b ∈ (ofSources settings sources).blocks) :
    ∃ s ∈ sources, ∃ lines, s.lines? = some lines ∧
      ∃ p ∈ Scan.acceptedPositions settings lines, p.block s.path lines = b := by
  obtain ⟨s, source, scanned⟩ := mem_blocks_ofSources.mp member
  obtain ⟨lines, text, p, accepted, same⟩ := Scan.mem_ofSource_blocks scanned
  exact ⟨s, source, lines, text, p, accepted, same⟩

theorem lineCount_listed {settings : Settings} {sources : List Node.Source} {b : Block}
    (member : b ∈ (ofSources settings sources).blocks) :
    ∃ size ∈ settings.blockSizes, b.lineCount = size.val := by
  obtain ⟨s, _, lines, _, p, accepted, rfl⟩ := block_origin member
  obtain ⟨⟨size, listed, same⟩, bound, _⟩ := Scan.mem_acceptedPositions.mp accepted
  refine ⟨size, listed, ?_⟩
  rw [Scan.Position.block, Scan.lineCount_block, Scan.length_window p lines (by omega), same]

end Index

namespace Analysis

/-- A run succeeds exactly when its root is a directory and the search below it does, and then it
reports on what was found. -/
theorem run_eq_ok_iff {settings : Settings} {d : Disk} {root : Path} {shown : String} {a : Analysis} :
    run settings d root shown = .ok a ↔
      d.isDirectory root = .ok true ∧ ∃ sources,
        Discovery.find d root settings.extensions settings.excludedDirs = .ok sources ∧
        a = ofIndex settings shown (Index.ofSources settings sources) := by
  rw [run, Index.ofTree]
  cases d.isDirectory root with
  | error f => simp [bind, Except.bind, Except.mapError, Except.map]
  | ok directory =>
    cases directory with
    | false => simp [bind, Except.bind, Except.mapError, Except.map, throw, throwThe, MonadExceptOf.throw]
    | true =>
      cases Discovery.find d root settings.extensions settings.excludedDirs with
      | error f => simp [bind, Except.bind, Except.mapError, Except.map]
      | ok sources => simp [bind, Except.bind, Except.mapError, Except.map, eq_comm]

/-- The groups of a report are the labelled groups of the blocks: all blocks of one fingerprint,
found at two places at least. -/
theorem mem_groups {settings : Settings} {shown : String} {index : Index} {g : Group}
    (member : g ∈ (ofIndex settings shown index).report.groups) :
    g.blocks = Group.membersOf index.blocks g.fingerprint ∧
      ∃ b ∈ g.blocks, ∃ c ∈ g.blocks, b.locationKey ≠ c.locationKey := by
  obtain ⟨bare, grouped, rfl⟩ := List.mem_map.mp member
  exact (Group.mem_ofList.mp grouped).2

theorem fingerprints_nodup (settings : Settings) (shown : String) (index : Index) :
    ((ofIndex settings shown index).report.groups.map (·.fingerprint)).Nodup := by
  have bare := Group.fingerprints_nodup index.blocks
  rw [ofIndex, Report.ofGroups, groupsOf, List.map_map]
  exact bare

/-- Two blocks of one fingerprint at two places are reported, in one group and in no other. -/
theorem exists_group {settings : Settings} {shown : String} {index : Index} {b c : Block}
    (hb : b ∈ index.blocks) (hc : c ∈ index.blocks) (same : b.fingerprint = c.fingerprint)
    (apart : b.locationKey ≠ c.locationKey) :
    ∃ g ∈ (ofIndex settings shown index).report.groups, b ∈ g.blocks ∧ c ∈ g.blocks := by
  obtain ⟨g, grouped, _, left, right⟩ := Group.exists_group hb hc same apart
  exact ⟨g.classify Rule.standard, List.mem_map_of_mem grouped, left, right⟩

/-- No two groups of a report share a member. -/
theorem eq_of_mem_blocks {settings : Settings} {shown : String} {index : Index} {g h : Group}
    {b : Block} (hg : g ∈ (ofIndex settings shown index).report.groups)
    (hh : h ∈ (ofIndex settings shown index).report.groups) (left : b ∈ g.blocks)
    (right : b ∈ h.blocks) : g = h := by
  rw [(mem_groups hg).1, Group.mem_membersOf] at left
  rw [(mem_groups hh).1, Group.mem_membersOf] at right
  exact List.inj_on_of_nodup_map (fingerprints_nodup settings shown index) hg hh
    (left.2.symm.trans right.2)

end Analysis

end CloneScan
