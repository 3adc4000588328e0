import CloneScan.Discovery
import CloneScan.Log
import CloneScan.Report

/-! A whole run over a tree: find the files, scan them, group their blocks, label the groups and
report. The files are taken as they are held in memory, whatever the length of their paths; the one
reason for which a file cannot be read is that its octets are no text, and such a file contributes
nothing but a note. -/
namespace CloneScan

/-- The scan of a found file. Its octets have to be text; line ends of any kind count. -/
def Scan.ofSource (settings : Settings) (s : Node.Source) : Scan :=
  let path := "/".intercalate s.place
  match Text.Utf8.decode s.content with
  | .ok text => Scan.ofText settings path (Text.unifyNewlines text.toList)
  | .error fault => Scan.unreadable path fault.message

/-- All files, one by one or by several workers, who may complete them in any order. -/
def Index.ofSourcesIn (order : List Nat) (settings : Settings) (sources : List Node.Source) :
    Index :=
  let scan := Scan.ofSource settings
  if settings.workers.val ≤ 1 then ⟨Assembly.oneByOne scan sources⟩
  else ⟨Assembly.sideBySide scan sources order⟩

def Index.ofSources (settings : Settings) (sources : List Node.Source) : Index :=
  .ofSourcesIn (List.range sources.length) settings sources

/-- The index of the tree at a path, which has to be a directory. -/
def Index.ofTree (settings : Settings) (d : Disk) (root : Path) :
    Except Discovery.Fault Index := do
  if ← (d.isDirectory root).mapError .file then
    (Discovery.find d root settings.extensions settings.excludedDirs).map
      (Index.ofSources settings)
  else throw (.noDirectory root.text)

structure Analysis where
  index : Index
  report : Report
  deriving Repr

namespace Analysis

def groupsOf (index : Index) : List Group :=
  (Group.ofList index.blocks).map (·.classify Rule.standard)

/-- `shownRoot` is how the report spells the path. -/
def ofIndex (settings : Settings) (shownRoot : String) (index : Index) : Analysis :=
  ⟨index, .ofGroups settings shownRoot (groupsOf index) (some index)⟩

def run (settings : Settings) (d : Disk) (root : Path) (shownRoot : String) :
    Except Discovery.Fault Analysis :=
  (Index.ofTree settings d root).map (ofIndex settings shownRoot)

/-- What is told of one file: that it was skipped, or that it was not scanned to its end. -/
def scanRecords (s : Scan) : List LogRecord :=
  match s.readError with
  | some reason => [⟨.warning, .index, "Skipping " ++ s.file ++ ": " ++ reason⟩]
  | none =>
    if s.truncated then
      [⟨.debug, .index, s.file ++ ": block limit reached, remaining windows skipped"⟩]
    else []

def records (a : Analysis) : List LogRecord :=
  [⟨.info, .index, "Found " ++ Numeral.text a.index.files.length ++ " files to analyze"⟩] ++
  a.index.files.flatMap scanRecords ++
  [⟨.info, .index, "Extracted " ++ Numeral.text a.index.blocks.length ++ " code blocks"⟩,
    ⟨.debug, .grouping,
      "Fingerprint buckets: " ++ Numeral.text (Group.buckets a.index.blocks).length ++
        ", duplicate groups: " ++ Numeral.text a.report.groups.length⟩,
    ⟨.info, .analysis,
      "Found " ++ Numeral.text a.report.groups.length ++ " duplicate groups"⟩]

end CloneScan.Analysis
