import CloneScan.Proofs.Ends
import CloneScan.Proofs.Pipeline
import CloneScan.Proofs.Utf8

/-! Trees of two files whose windows are reported as copies. They stand wherever the settings have a
search find anything, so what such a tree shows is shown of all settings. -/
namespace CloneScan

def Node.Source.ofLines (place : Location) (lines : List (List Char)) : Node.Source :=
  ⟨place, Text.Utf8.encode (.ofList (Text.unlines lines))⟩

theorem Text.return_not_mem_unlines {ls : List (List Char)}
    (plain : ∀ l ∈ ls, ∀ c ∈ l, c ≠ '\n' ∧ c ≠ '\r') : '\r' ∉ unlines ls := by
  intro member
  rcases mem_intercalate member with newline | ⟨l, below, inside⟩
  · exact absurd newline (by decide)
  · exact (plain l below _ inside).2 rfl

theorem Node.Source.lines?_ofLines (place : Location) (filled : lines ≠ [])
    (plain : ∀ l ∈ lines, ∀ c ∈ l, c ≠ '\n' ∧ c ≠ '\r') :
    (ofLines place lines).lines? = some lines := by
  have returns := Text.return_not_mem_unlines plain
  have flat : ∀ l ∈ lines, '\n' ∉ l := fun l member inside => (plain l member _ inside).1 rfl
  rw [lines?, ofLines, Text.Utf8.decode_encode]
  simp [Text.unifyNewlines_eq_self returns, Text.lines_unlines filled flat]

/-- Two files in one directory. The name of the second has one more dot in front, which leaves its
extension as it is. -/
def Disk.pair (name : String) (ls ms : List (List Char)) : Disk where
  top := .directory [
    (name, .file (Node.Source.ofLines [name] ls).content),
    ("." ++ name, .file (Node.Source.ofLines ["." ++ name] ms).content)]

def Path.here : Path := ⟨.relative, []⟩

namespace Disk

theorem ne_dot_append (name : String) : name ≠ "." ++ name := by
  intro same
  have lengths := congrArg String.length same
  simp at lengths

theorem dotted_isName (valid : Node.IsName name) : Node.IsName ("." ++ name) where
  filled none := by simpa using congrArg String.toList none
  apart := by
    constructor
    · intro same
      have empty : name.toList = [] := by simpa using congrArg String.toList same
      exact valid.filled (String.toList_inj.mp empty)
    · intro same
      have dot : name.toList = ['.'] := by simpa using congrArg String.toList same
      exact valid.apart.1 (String.toList_inj.mp dot)
  noSlash := by simpa using valid.noSlash
  noNull := by simpa using valid.noNull

theorem pair_wellNamed (valid : Node.IsName name) (ls ms : List (List Char)) :
    (pair name ls ms).top.WellNamed := by
  have dotted := dotted_isName valid
  have differ := ne_dot_append name
  simp [pair, Node.WellNamed, Node.WellNamedBelow, valid, dotted, differ]

theorem node?_here (d : Disk) (home : d.here = []) : d.node? Path.here = some d.top := by
  have short : Path.here.text.utf8ByteSize ≤ longestPath := by decide
  have located : d.locate Path.here = .ok [] := by
    rw [locate, if_neg (by decide), if_neg (Nat.not_lt.mpr short), Path.here, home]
    rfl
  rw [node?, located]
  exact Node.at?_nil d.top

theorem isDirectory_of_node? {d : Disk} {p : Path} {n : Node} (found : d.node? p = some n)
    (directory : n.isDirectory = true) : d.isDirectory p = .ok true := by
  rw [isDirectory, look]
  split
  next long => simp [node?, long] at found
  next => simp [found, directory, Except.map]

theorem pair_isDirectory (name : String) (ls ms : List (List Char)) :
    (pair name ls ms).isDirectory Path.here = .ok true :=
  isDirectory_of_node? (node?_here (pair name ls ms) rfl) rfl

end Disk

theorem Discovery.isWanted_dotted (wanted : List (List Char)) (name : String) :
    isWanted wanted ("." ++ name) = isWanted wanted name := by
  simp [isWanted, Path.extensionOf]

theorem Disk.find_pair {settings : Settings} {wanted : List (List Char)} {excluded : List String}
    (lowered : Discovery.lowerExtensions settings.extensions = .ok wanted)
    (names : Discovery.excludedNames settings.excludedDirs = .ok excluded)
    (chosen : Discovery.isWanted wanted name = true) (ls ms : List (List Char)) :
    ∃ sources, Discovery.find (pair name ls ms) Path.here settings.extensions
        settings.excludedDirs = .ok sources ∧
      Node.Source.ofLines [name] ls ∈ sources ∧
      Node.Source.ofLines ["." ++ name] ms ∈ sources := by
  have dotted := (Discovery.isWanted_dotted wanted name).trans chosen
  refine ⟨(pair name ls ms).top.sources (Discovery.isWanted wanted)
    fun name => !excluded.contains name, ?_, ?_, ?_⟩
  · rw [Discovery.find, lowered, names]
    simp only [node?_here (pair name ls ms) rfl]
    rfl
  · apply List.mem_append_left
    refine List.mem_map.mpr ⟨(name, (Node.Source.ofLines [name] ls).content), ?_, rfl⟩
    rw [(Node.byName_perm _).mem_iff]
    simp [Node.ownFiles, chosen]
  · apply List.mem_append_left
    refine List.mem_map.mpr
      ⟨("." ++ name, (Node.Source.ofLines ["." ++ name] ms).content), ?_, rfl⟩
    rw [(Node.byName_perm _).mem_iff]
    simp [Node.ownFiles, chosen, dotted]

namespace Scan.Ends

variable {settings : Settings} {e : Ends settings.minTokens.val}

def block (e : Ends minTokens) (n : Nat) (place : Location) : Block :=
  Position.block (Node.Source.ofLines place (e.file n)).path (e.file n) ⟨n, 0⟩

theorem lines?_file (e : Ends minTokens) (n : Nat) (place : Location) :
    (Node.Source.ofLines place (e.file n)).lines? = some (e.file n) :=
  Node.Source.lines?_ofLines place (by simp [file]) (e.plain_file n)

theorem blocks_file (kept : e.Kept n) (place : Location) :
    (Scan.ofSource settings (Node.Source.ofLines place (e.file n))).blocks =
      List.replicate
        (min settings.maxBlocksPerFile.val (acceptedPositions settings (e.file n)).length)
        (e.block n place) := by
  rw [ofSource_blocks (e.lines?_file n place), acceptedPositions_file kept, List.take_replicate,
    List.map_replicate, List.length_replicate]
  rfl

theorem block_mem (kept : e.Kept n) (place : Location) :
    e.block n place ∈ (Scan.ofSource settings (Node.Source.ofLines place (e.file n))).blocks := by
  have limit := settings.maxBlocksPerFile.property
  have filled := List.length_pos_of_mem (mem_acceptedPositions_file kept)
  rw [blocks_file kept]
  exact List.mem_replicate.mpr ⟨by omega, rfl⟩

theorem lineCount_block (e : Ends minTokens) (positive : 0 < n) (place : Location) :
    (e.block n place).lineCount = n := by
  rw [block, Position.block, Scan.lineCount_block, e.window_file positive, e.length_window positive]

/-- Two files with windows of one normal form are reported. Their blocks are in one group, each as
often as its scan found it. -/
theorem pair_reported {e f : Ends settings.minTokens.val} {wanted : List (List Char)}
    {excluded : List String}
    (lowered : Discovery.lowerExtensions settings.extensions = .ok wanted)
    (names : Discovery.excludedNames settings.excludedDirs = .ok excluded)
    (chosen : Discovery.isWanted wanted name = true) (left : e.Kept n) (right : f.Kept m)
    (same : Source.normalForm (Text.unlines (e.window n)) =
      Source.normalForm (Text.unlines (f.window m))) (shown : String) :
    ∃ a, Analysis.run settings (Disk.pair name (e.file n) (f.file m)) Path.here shown = .ok a ∧
      ∃ g ∈ a.report.groups, e.block n [name] ∈ g.blocks ∧ f.block m ["." ++ name] ∈ g.blocks ∧
        List.Sublist (Scan.ofSource settings (Node.Source.ofLines [name] (e.file n))).blocks
          g.blocks := by
  obtain ⟨sources, found, hs, ht⟩ := Disk.find_pair lowered names chosen (e.file n) (f.file m)
  have run : Analysis.run settings (Disk.pair name (e.file n) (f.file m)) Path.here shown =
      .ok (Analysis.ofIndex settings shown (Index.ofSources settings sources)) :=
    Analysis.run_eq_ok_iff.mpr ⟨Disk.pair_isDirectory _ _ _, sources, found, rfl⟩
  have hb := Index.mem_blocks_ofSources.mpr ⟨_, hs, block_mem left [name]⟩
  have hc := Index.mem_blocks_ofSources.mpr ⟨_, ht, block_mem right ["." ++ name]⟩
  have fingerprint : (e.block n [name]).fingerprint = (f.block m ["." ++ name]).fingerprint := by
    apply fingerprint_eq_of_normalForm
    rw [e.window_file left.positive, f.window_file right.positive]
    exact same
  have apart : (e.block n [name]).locationKey ≠ (f.block m ["." ++ name]).locationKey := by
    intro key
    have file := ((Block.locationKey_eq_iff _ _).mp key).1
    exact Disk.ne_dot_append name (by simpa [block, Position.block, Scan.block,
      Node.Source.path, Node.Source.ofLines] using file)
  obtain ⟨g, grouped, inside, other⟩ := Analysis.exists_group hb hc fingerprint apart
  refine ⟨_, run, g, grouped, inside, other, ?_⟩
  have members := (Analysis.mem_groups grouped).1
  rw [members, Group.mem_membersOf] at inside
  -- All blocks of the first file are the same one, so the group has as many of them.
  have kept := (Index.blocks_sublist settings hs).filter
    fun b => g.fingerprint == b.fingerprint
  rw [blocks_file left, List.filter_replicate_of_pos (by simpa using inside.2.symm)] at kept
  rw [members, blocks_file left]
  exact kept

end Scan.Ends

namespace Scan

def Spelling.plain : Spelling where
  letter := 'x'
  opening := []
  closing := []
  solid := by
    intro c member
    rw [List.mem_singleton.mp member]
    decide
  short := by decide
  start := by decide

variable {settings : Settings}

theorem Spelling.plain_kept (size : Positive) (listed : size ∈ settings.blockSizes) :
    (plain.ends settings.minTokens.val).Kept size.val where
  listed := ⟨size, listed, rfl⟩
  code := by
    have framed := Text.framed_append (plain.ends settings.minTokens.val).firstFramed [' ']
      (plain.ends settings.minTokens.val).lastFramed
    exact .inr (Source.isCodeLine_of_start (Text.trim_of_framed framed) plain.start)

theorem Spelling.plain_normalForm (minTokens n m : Nat) :
    Source.normalForm (Text.unlines ((plain.ends minTokens).window n)) =
      Source.normalForm (Text.unlines ((plain.ends minTokens).window m)) := by
  have noSlash : '/' ∉ (plain.ends minTokens).first ++ (plain.ends minTokens).last := by
    have last : (plain.ends minTokens).last = plain.body minTokens := by
      rw [← List.append_nil (plain.body minTokens)]
      exact plain.lastLine_eq minTokens
    rw [last]
    exact plain.not_mem_text (by decide) (by decide) minTokens
  rw [Ends.normalForm_window _ noSlash, Ends.normalForm_window _ noSlash]

end Scan

theorem Settings.default_searchable : Settings.default.Searchable where
  extensions := by simp [default]
  excludedDirs := by decide

def Disk.copies (n m : Nat) : Disk :=
  pair "a.ts" ((Scan.Spelling.plain.ends 50).file n) ((Scan.Spelling.plain.ends 50).file m)

theorem Settings.default_wants :
    Discovery.isWanted [".ts".toList, ".svelte".toList, ".js".toList] "a.ts" = true := by
  decide

theorem Disk.copies_isName : Node.IsName "a.ts" := ⟨by decide, by decide, by decide, by decide⟩

theorem Disk.copies_wellNamed (n m : Nat) : (copies n m).top.WellNamed :=
  pair_wellNamed copies_isName _ _

theorem Disk.find_copies (n m : Nat) :
    ∃ sources, Discovery.find (copies n m) Path.here Settings.default.extensions
        Settings.default.excludedDirs = .ok sources ∧
      Node.Source.ofLines ["a.ts"] ((Scan.Spelling.plain.ends 50).file n) ∈ sources ∧
      Node.Source.ofLines ["." ++ "a.ts"] ((Scan.Spelling.plain.ends 50).file m) ∈ sources :=
  find_pair rfl rfl Settings.default_wants _ _

theorem Disk.copies_reported (u v : Positive) (hu : u ∈ Settings.default.blockSizes)
    (hv : v ∈ Settings.default.blockSizes) (shown : String) :
    ∃ a, Analysis.run .default (copies u.val v.val) Path.here shown = .ok a ∧
      ∃ g ∈ a.report.groups, (Scan.Spelling.plain.ends 50).block u.val ["a.ts"] ∈ g.blocks ∧
        (Scan.Spelling.plain.ends 50).block v.val ["." ++ "a.ts"] ∈ g.blocks := by
  obtain ⟨a, run, g, grouped, left, right, _⟩ :=
    Scan.Ends.pair_reported rfl rfl Settings.default_wants (Scan.Spelling.plain_kept u hu)
      (Scan.Spelling.plain_kept v hv) (Scan.Spelling.plain_normalForm _ _ _) shown
  exact ⟨a, run, g, grouped, left, right⟩

end CloneScan
