import CloneScan.Proofs.Specimen
import CloneScan.Store

/-! What a stored report says is so. Every location of every entry cites lines that stand in a found
file and pass the filters, and the lines of one entry have one digest. The digest is that of the
cited lines themselves: the trimming that comes before it leaves no trace. -/
namespace CloneScan

structure Citation where
  file : String
  startLine : Int
  endLine : Int
  cited : List (List Char)

namespace Citation

def value (c : Citation) : Value := .record [
  ("file", .text c.file), ("startLine", .int c.startLine), ("endLine", .int c.endLine)]

def text (c : Citation) : List Char := Text.unlines c.cited

/-- The cited lines are lines of a found file that is text, and none of them is its last line. Their
number is a window size, and they pass the filters. -/
structure Genuine (settings : Settings) (sources : List Node.Source) (c : Citation) : Prop where
  order : 1 ≤ c.startLine ∧ c.startLine ≤ c.endLine
  file : ∃ s ∈ sources, s.path = c.file ∧ ∃ lines, s.lines? = some lines ∧
    c.endLine < lines.length ∧
    c.cited = (lines.drop (c.startLine.toNat - 1)).take (c.endLine - c.startLine + 1).toNat
  size : ∃ size ∈ settings.blockSizes, (size.val : Int) = c.endLine - c.startLine + 1
  accepted : Scan.accepts settings.minTokens.val c.cited = true

/-- What a block tells of its place. -/
def ofBlock (b : Block) : Citation := ⟨b.file, b.startLine, b.endLine, Text.lines b.content.toList⟩

theorem value_ofBlock (b : Block) : (ofBlock b).value = Report.place b := rfl

theorem text_ofBlock (b : Block) : (ofBlock b).text = b.content.toList := Text.unlines_lines _

theorem cited_block (file : String) (p : Scan.Position) (lines : List (List Char))
    (size : 0 < p.size) (bound : p.start + p.size ≤ lines.length)
    (flat : ∀ l ∈ lines, '\n' ∉ l) : (ofBlock (p.block file lines)).cited = p.window lines := by
  have length := Scan.length_window p lines bound
  have filled : p.window lines ≠ [] := by
    intro none
    rw [none] at length
    exact absurd length.symm (by simpa using Nat.ne_of_gt size)
  have inside : ∀ l ∈ p.window lines, '\n' ∉ l :=
    fun l member => flat l (List.mem_of_mem_drop (List.mem_of_mem_take member))
  simp only [ofBlock, Scan.Position.block, Scan.block, String.toList_ofList]
  exact Text.lines_unlines filled inside

/-- Every block of an index tells the truth about its place. -/
theorem genuine_ofBlock {settings : Settings} {sources : List Node.Source} {b : Block}
    (member : b ∈ (Index.ofSources settings sources).blocks) :
    (ofBlock b).Genuine settings sources := by
  obtain ⟨s, source, lines, text, p, accepted, rfl⟩ := Index.block_origin member
  obtain ⟨⟨size, listed, same⟩, bound, passes⟩ := Scan.mem_acceptedPositions.mp accepted
  have positive : 0 < p.size := same ▸ size.property
  have length := Scan.length_window p lines (by omega)
  have cited := cited_block s.path p lines positive (by omega) (s.newline_not_mem text)
  have start : (ofBlock (p.block s.path lines)).startLine = p.start + 1 := rfl
  have last : (ofBlock (p.block s.path lines)).endLine = p.start + p.size := by
    rw [← length]
    rfl
  constructor
  · rw [start, last]
    omega
  · refine ⟨s, source, rfl, lines, text, ?_, ?_⟩
    · rw [last]
      omega
    · rw [cited, start, last, Scan.Position.window]
      congr 2
      omega
  · exact ⟨size, listed, by rw [start, last, same]; omega⟩
  · rw [cited]
    exact passes

theorem fingerprint_ofBlock {settings : Settings} {sources : List Node.Source} {b : Block}
    (member : b ∈ (Index.ofSources settings sources).blocks) :
    Source.fingerprint (.ofList (ofBlock b).text) = b.fingerprint := by
  obtain ⟨s, _, lines, _, p, _, rfl⟩ := Index.block_origin member
  rw [text_ofBlock, Scan.Position.block, Scan.fingerprint_block, Scan.block, String.toList_ofList]

end Citation

/-- What an entry of a stored report says is so: its locations are genuine, at two places at least
and all of one digest, and its code is the beginning of the trimmed lines of the first of them. -/
def EntrySound (settings : Settings) (sources : List Node.Source) (digest : String)
    (entry : Value) : Prop :=
  ∃ first rest,
    entry.part "locations" = .ok (.list ((first :: rest).map Citation.value)) ∧
    entry.part "code" =
      .ok (.text (.ofList ((Text.trim first.text).take settings.previewLength.val))) ∧
    (∀ c ∈ first :: rest, c.Genuine settings sources ∧
      Source.fingerprint (.ofList c.text) = digest) ∧
    ∃ b ∈ first :: rest, ∃ c ∈ first :: rest, (b.file, b.startLine) ≠ (c.file, c.startLine)

theorem duplicates?_artifact (settings : Settings) (r : Report) :
    Store.duplicates? (r.artifact settings) =
      some (r.groups.map (Report.duplicate settings.previewLength.val)) := by
  simp [Store.duplicates?, Report.artifact, List.lookup_cons]

theorem Block.preview_eq_take (b : Block) (limit : Nat) :
    b.preview limit = .ofList ((Text.trim b.content.toList).take limit) := by
  simp [Block.preview, leading]

theorem duplicate_sound {settings : Settings} {sources : List Node.Source} {shown : String}
    {g : Group}
    (member : g ∈ (Analysis.ofIndex settings shown
      (Index.ofSources settings sources)).report.groups) :
    EntrySound settings sources g.fingerprint
      (Report.duplicate settings.previewLength.val g) := by
  obtain ⟨members, b, hb, c, hc, apart⟩ := Analysis.mem_groups member
  refine ⟨Citation.ofBlock g.representative, g.others.map Citation.ofBlock, ?_, ?_, ?_, ?_⟩
  · simp [Report.duplicate, Value.part, List.lookup_cons, Group.blocks, Citation.value_ofBlock]
  · simp [Report.duplicate, Value.part, List.lookup_cons, Citation.text_ofBlock, Block.preview_eq_take]
  · -- The members of a group are all the indexed blocks of its fingerprint.
    intro cited inside
    rw [← List.map_cons] at inside
    obtain ⟨e, he, rfl⟩ := List.mem_map.mp inside
    have indexed : e ∈ Group.membersOf (Index.ofSources settings sources).blocks g.fingerprint :=
      members ▸ he
    obtain ⟨block, same⟩ := Group.mem_membersOf.mp indexed
    exact ⟨Citation.genuine_ofBlock block, (Citation.fingerprint_ofBlock block).trans same⟩
  · rw [← List.map_cons]
    refine ⟨_, List.mem_map_of_mem hb, _, List.mem_map_of_mem hc, ?_⟩
    intro same
    obtain ⟨file, line⟩ := Prod.mk.inj same
    exact apart ((Block.locationKey_eq_iff b c).mpr ⟨file, line⟩)

/-- A run over a directory gives an artifact, and every entry of it is so. No two entries have one
digest. -/
theorem artifact_sound {settings : Settings} {d : Disk} {root : Path}
    (searchable : settings.Searchable) (directory : d.isDirectory root = .ok true)
    (shown : String) :
    ∃ sources a entries digests,
      Discovery.find d root settings.extensions settings.excludedDirs = .ok sources ∧
      Analysis.run settings d root shown = .ok a ∧
      Store.duplicates? (a.report.artifact settings) = some entries ∧
      digests.Nodup ∧ List.Forall₂ (EntrySound settings sources) digests entries := by
  obtain ⟨sources, found⟩ := Discovery.find_ok searchable directory
  let a := Analysis.ofIndex settings shown (Index.ofSources settings sources)
  refine ⟨sources, a, _, a.report.groups.map (·.fingerprint), found, ?_,
    duplicates?_artifact _ _, Analysis.fingerprints_nodup settings shown _, ?_⟩
  · exact Analysis.run_eq_ok_iff.mpr ⟨directory, sources, found, rfl⟩
  rw [List.forall₂_map_left_iff, List.forall₂_map_right_iff, List.forall₂_same]
  intro g member
  exact duplicate_sound member

/-- Two files of five lines with the same words have an artifact with an entry. -/
theorem copies_artifact_sound :
    Settings.default.Searchable ∧ (Disk.copies 5 5).isDirectory Path.here = .ok true ∧
    ∃ sources a entries digests,
      Discovery.find (Disk.copies 5 5) Path.here Settings.default.extensions
        Settings.default.excludedDirs = .ok sources ∧
      Analysis.run .default (Disk.copies 5 5) Path.here "." = .ok a ∧
      Store.duplicates? (a.report.artifact .default) = some entries ∧ entries ≠ [] ∧
      digests.Nodup ∧ List.Forall₂ (EntrySound .default sources) digests entries := by
  have searchable := Settings.default_searchable
  have directory : (Disk.copies 5 5).isDirectory Path.here = .ok true := Disk.pair_isDirectory _ _ _
  obtain ⟨sources, a, entries, digests, found, run, listed, nodup, sound⟩ :=
    artifact_sound searchable directory "."
  refine ⟨searchable, directory, sources, a, entries, digests, found, run, listed, ?_, nodup, sound⟩
  obtain ⟨b, again, g, grouped, _⟩ :=
    Disk.copies_reported ⟨5, by decide⟩ ⟨5, by decide⟩ (by decide) (by decide) "."
  obtain rfl : a = b := Except.ok.inj (run.symm.trans again)
  rw [duplicates?_artifact] at listed
  rw [← Option.some.inj listed]
  exact List.ne_nil_of_mem (List.mem_map_of_mem grouped)

end CloneScan
