import CloneScan.Proofs.Files
import CloneScan.Proofs.Independence
import CloneScan.Proofs.Soundness

/-! A file that is no text is noted and leaves no other trace. Its empty scan stands between the scans
of the other files, so their blocks keep their order, and with it the groups, their ranks and all that
is counted of them. -/
namespace CloneScan

namespace Node

structure OneMore (m n : Node) (place : Location) (content : List UInt8) : Prop where
  fresh : m.fileAt? place = none
  added : n.fileAt? place = some content
  others : ∀ other, other ≠ place → n.fileAt? other = m.fileAt? other

theorem fileAt?_congr {m n : Node} {place : Location} (same : m.surface? place = n.surface? place) :
    m.fileAt? place = n.fileAt? place := by
  apply Option.ext
  intro content
  rw [fileAt?_eq_some, fileAt?_eq_some, ← surface?_eq_file, ← surface?_eq_file, same]

/-- A file that is put into a directory under a new name is one file more. -/
theorem oneMore_put {above : Location} {name : String} {n : Node}
    (inside : n.isDirectoryAt above = true) (free : n.at? (above ++ [name]) = none)
    (content : List UInt8) :
    OneMore n (n.put (above ++ [name]) (file content)) (above ++ [name]) content := by
  have flat : n.isDirectoryAt (above ++ [name]) = false := by simp [isDirectoryAt, free]
  have surface := surface?_put inside flat content
  refine ⟨by simp [fileAt?, free], ?_, fun other apart => fileAt?_congr ?_⟩
  · rw [fileAt?_eq_some, ← surface?_eq_file, surface, if_pos rfl]
  · rw [surface, if_neg apart]

/-- A search that gets to the new file finds it somewhere among the others. -/
theorem sources_oneMore {m n : Node} (hm : m.WellNamed) (hn : n.WellNamed) {place : Location}
    {content : List UInt8} (more : OneMore m n place content) {wanted entered : String → Bool}
    (sought : Sought wanted entered place) :
    ∃ before after, sources wanted entered m = before ++ after ∧
      sources wanted entered n = before ++ ⟨place, content⟩ :: after := by
  have member : (⟨place, content⟩ : Source) ∈ sources wanted entered n :=
    (mem_sources hn).mpr ⟨sought, more.added⟩
  obtain ⟨before, after, split⟩ := List.append_of_mem member
  refine ⟨before, after, ?_, split⟩
  have ordered := @sources_ordered wanted entered n hn
  have nodup := places_nodup wanted entered n hn
  rw [split] at ordered nodup
  rw [List.map_append, List.map_cons, List.nodup_middle, ← List.map_append, List.nodup_cons] at nodup
  refine eq_of_ordered (sources_ordered hm)
    (ordered.sublist ((List.sublist_cons_self _ _).append_left _)) fun s => ?_
  -- What is left of the larger search are its files at other places.
  have kept : s ∈ before ++ after ↔ s ∈ sources wanted entered n ∧ s.place ≠ place := by
    rw [split, List.mem_append, List.mem_append, List.mem_cons]
    constructor
    · intro inside
      exact ⟨inside.imp_right .inr, fun same =>
        nodup.1 (List.mem_map.mpr ⟨s, List.mem_append.mpr inside, same⟩)⟩
    · rintro ⟨left | rfl | right, apart⟩
      · exact .inl left
      · exact absurd rfl apart
      · exact .inr right
  rw [kept, mem_sources hm, mem_sources hn]
  by_cases same : s.place = place
  · rw [same, more.fresh]
    simp
  · rw [more.others _ same]
    simp [same]

end Node

namespace Index

variable {settings : Settings} {before after : List Node.Source} {bad : Node.Source}

structure SkipsOneMore (index more : Index) : Prop where
  blocks : more.blocks = index.blocks
  filesScanned : more.filesScanned = index.filesScanned
  truncatedFiles : more.truncatedFiles = index.truncatedFiles
  skipped : more.skipped.length = index.skipped.length + 1

/-- A file that is no text is skipped, wherever it stands among the others. -/
theorem skipsOneMore_unreadable {fault : Text.Utf8.Fault}
    (broken : Text.Utf8.decode bad.content = .error fault) :
    (ofSources settings (before ++ after)).SkipsOneMore
      (ofSources settings (before ++ bad :: after)) := by
  have scan : Scan.ofSource settings bad = Scan.unreadable bad.path fault.message := by
    simp only [Scan.ofSource, broken, Node.Source.path]
  simp only [ofSources_eq, List.map_append, List.map_cons, scan]
  constructor
  · simp [Index.blocks, Scan.unreadable]
  · simp [Index.filesScanned, Scan.unreadable]
  · simp [Index.truncatedFiles, Scan.unreadable]
  · simp only [Index.skipped, Scan.unreadable, List.filterMap_append, List.filterMap_cons,
      Option.map_some, List.length_append, List.length_cons]
    omega

end Index

namespace Report

/-- A report as another one but for the files that were skipped, which are one more. -/
structure SkipsOneMore (settings : Settings) (r more : Report) : Prop where
  rest : more = { r with skippedFiles := more.skippedFiles }
  artifact : ∃ counts parts,
    r.artifact settings = .record
      (("summary", .record (counts ++ [("filesSkipped", .int r.skippedFiles.length)])) :: parts) ∧
    more.artifact settings = .record
      (("summary", .record (counts ++ [("filesSkipped", .int (r.skippedFiles.length + 1))])) :: parts)

end Report

namespace Analysis

theorem skipsOneMore_ofIndex {index more : Index} (skips : index.SkipsOneMore more)
    (settings : Settings) (shown : String) :
    (ofIndex settings shown index).report.SkipsOneMore settings
      (ofIndex settings shown more).report := by
  have groups : groupsOf more = groupsOf index := by rw [groupsOf, groupsOf, skips.blocks]
  have rest : (ofIndex settings shown more).report =
      { (ofIndex settings shown index).report with skippedFiles := more.skipped } := by
    simp only [ofIndex, Report.ofGroups, groups, skips.filesScanned, skips.truncatedFiles]
  have one : (more.skipped.length : Int) = index.skipped.length + 1 := by
    rw [skips.skipped, Int.natCast_add_one]
  refine ⟨rest, [_, _, _, _], _, rfl, ?_⟩
  rw [rest]
  simp only [Report.artifact, Report.summary, one]
  rfl

/-- No block of a search is of a file that is no text. -/
theorem file_ne_of_unreadable {settings : Settings} {n : Node} (valid : n.WellNamed)
    {wanted entered : String → Bool} {bad : Node.Source} {fault : Text.Utf8.Fault}
    (found : bad ∈ n.sources wanted entered) (broken : Text.Utf8.decode bad.content = .error fault)
    {b : Block} (member : b ∈ (Index.ofSources settings (n.sources wanted entered)).blocks) :
    b.file ≠ bad.path := by
  obtain ⟨s, source, lines, text, p, _, rfl⟩ := Index.block_origin member
  intro same
  have placed := Node.sources_placed wanted entered n valid
  have places := Node.Source.path_injective (placed s source) (placed bad found) same
  have contents := ((Node.mem_sources valid).mp source).2.symm
  rw [places, ((Node.mem_sources valid).mp found).2] at contents
  obtain ⟨t, decoded, _⟩ := Node.Source.lines?_eq_some text
  rw [Option.some.inj contents, broken] at decoded
  cases decoded

end Analysis

/-- Whether a search by these settings gets to a file at a place: no directory on the way is excluded,
and the name at its end has one of their extensions. -/
def Settings.Seeks (settings : Settings) (place : Location) : Prop :=
  ∃ wanted excluded, Discovery.lowerExtensions settings.extensions = .ok wanted ∧
    Discovery.excludedNames settings.excludedDirs = .ok excluded ∧
    Node.Sought (Discovery.isWanted wanted) (fun name => !excluded.contains name) place

/-- One more file that is no text, wherever a search finds it, leaves a run of any number of workers as
it was: the same groups in the same order, the same categories and the same files scanned and cut
short. The artifact counts one more file that was skipped, and no location of a group names it. -/
theorem unreadable_file_isolated {settings : Settings} {d e : Disk} {p q : Path} {m n : Node}
    {place : Location} {content : List UInt8} (left : d.Rooted p m) (right : e.Rooted q n)
    (more : Node.OneMore m n place content) (seeks : settings.Seeks place)
    (noText : ∀ text, content ≠ Text.Utf8.encode text) (shown : String) :
    ∃ a b, Analysis.run settings d p shown = .ok a ∧ Analysis.run settings e q shown = .ok b ∧
      a.report.SkipsOneMore settings b.report ∧
      ∀ g ∈ b.report.groups, ∀ block ∈ g.blocks, block.file ≠ "/".intercalate place := by
  obtain ⟨wanted, excluded, lowered, names, sought⟩ := seeks
  obtain ⟨fault, broken⟩ := Text.Utf8.decode_eq_error noText
  obtain ⟨before, after, few, many⟩ :=
    Node.sources_oneMore left.wellNamed right.wellNamed more sought
  have skips := @Index.skipsOneMore_unreadable settings before after ⟨place, content⟩ fault broken
  rw [← few, ← many] at skips
  refine ⟨_, _, Analysis.run_rooted left lowered names shown,
    Analysis.run_rooted right lowered names shown, Analysis.skipsOneMore_ofIndex skips _ _, ?_⟩
  intro g grouped block inside
  rw [(Analysis.mem_groups grouped).1] at inside
  have found : ⟨place, content⟩ ∈ n.sources (Discovery.isWanted wanted)
      fun name => !excluded.contains name :=
    (Node.mem_sources right.wellNamed).mpr ⟨sought, more.added⟩
  exact Analysis.file_ne_of_unreadable right.wellNamed found broken
    (Group.mem_membersOf.mp inside).1

/-- Two copies, and a file of one octet that no text has. A search meets it between them. -/
def Disk.brokenCopies : Disk where
  top := (copies 5 5).top.put [".b.ts"] (.file [0xFF])

theorem Disk.brokenCopies_rooted : brokenCopies.Rooted Path.here brokenCopies.top := by
  refine ⟨node?_here brokenCopies rfl, rfl, ?_⟩
  have first := copies_isName
  have last : Node.IsName ".b.ts" := ⟨by decide, by decide, by decide, by decide⟩
  have entries : brokenCopies.top = .directory [
      ("a.ts", .file (Node.Source.ofLines ["a.ts"] ((Scan.Spelling.plain.ends 50).file 5)).content),
      ("." ++ "a.ts",
        .file (Node.Source.ofLines ["." ++ "a.ts"] ((Scan.Spelling.plain.ends 50).file 5)).content),
      (".b.ts", .file [0xFF])] := rfl
  rw [entries, Node.WellNamed]
  exact ⟨by simp, first, trivial, dotted_isName first, trivial, last, trivial, trivial⟩

/-- Two copies are reported as before. -/
theorem broken_copies_isolated :
    let top := (Disk.copies 5 5).top
    (Disk.copies 5 5).Rooted Path.here top ∧
    Disk.brokenCopies.Rooted Path.here Disk.brokenCopies.top ∧
    Node.OneMore top Disk.brokenCopies.top [".b.ts"] [0xFF] ∧ Settings.default.Seeks [".b.ts"] ∧
    (∀ text, [0xFF] ≠ Text.Utf8.encode text) ∧
    ∃ a b, Analysis.run .default (Disk.copies 5 5) Path.here "." = .ok a ∧
      Analysis.run .default Disk.brokenCopies Path.here "." = .ok b ∧
      a.report.groups ≠ [] ∧ a.report.SkipsOneMore .default b.report ∧
      ∀ g ∈ b.report.groups, ∀ block ∈ g.blocks, block.file ≠ ".b.ts" := by
  have left := Disk.copies_rooted 5 5
  have right := Disk.brokenCopies_rooted
  have more : Node.OneMore (Disk.copies 5 5).top Disk.brokenCopies.top [".b.ts"] [0xFF] :=
    @Node.oneMore_put [] ".b.ts" _ rfl rfl [0xFF]
  have seeks : Settings.default.Seeks [".b.ts"] :=
    ⟨_, _, rfl, rfl, Node.sought_singleton.mpr (by decide)⟩
  have noText (text : String) : [0xFF] ≠ Text.Utf8.encode text := by
    intro same
    have decoded := Text.Utf8.decode_eq_ok.mpr same
    cases decoded
  obtain ⟨a, b, before, after, skips, unnamed⟩ :=
    unreadable_file_isolated left right more seeks noText "."
  exact ⟨left, right, more, seeks, noText, a, b, before, after, Analysis.copies_filled before, skips,
    unnamed⟩

end CloneScan
