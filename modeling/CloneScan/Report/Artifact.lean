import CloneScan.Json.Writer
import CloneScan.Report
import CloneScan.Value.Access

/-! The report as a stored artifact: a value with fixed fields in a fixed order, written as JSON. It
carries no time and no absolute path, so equal trees give equal artifacts. The commands that read
it back know nothing else of the run. -/
namespace CloneScan.Report

def place (b : Block) : Value := .record [
  ("file", .text b.file), ("startLine", .int b.startLine), ("endLine", .int b.endLine)]

def duplicate (previewLength : Nat) (g : Group) : Value := .record [
  ("type", .text g.label.category),
  ("suggestion", .text g.label.suggestion),
  ("impact", .int g.impact),
  ("count", .int g.count),
  ("lines", .int g.lineCount),
  ("locations", .list (g.blocks.map place)),
  ("code", .text (g.representative.preview previewLength))]

def summary (r : Report) : Value := .record [
  ("totalPatterns", .int r.totalPatterns),
  ("totalLines", .int r.totalLines),
  ("avgDuplication", .float r.averageLines),
  ("filesScanned", .int r.filesScanned),
  ("filesSkipped", .int r.skippedFiles.length)]

def artifact (settings : Settings) (r : Report) : Value := .record [
  ("summary", r.summary),
  ("categories", .list (r.categories.map fun total => .record [
    ("type", .text total.category), ("count", .int total.count), ("impact", .int total.impact)])),
  ("truncatedFiles", .list (r.truncatedFiles.map .text)),
  ("duplicates", .list (r.groups.map (duplicate settings.previewLength.val)))]

def toJson (settings : Settings) (r : Report) : String :=
  Json.render (r.artifact settings) ++ "\n"

def summaryLines (artifact : Value) : Except Value.Fault (List String) := do
  let summary ← artifact.fieldD "summary" (.record [])
  let patterns ← summary.fieldD "totalPatterns" (.int 0)
  let lines ← summary.fieldD "totalLines" (.int 0)
  let average ← summary.fieldD "avgDuplication" (.int 0)
  let truncated ← artifact.fieldD "truncatedFiles" .null
  let head := [
    "Total patterns: " ++ patterns.display,
    "Total duplicated lines: " ++ lines.display,
    "Average duplication: " ++ average.display ++ " lines"]
  if truncated.isTrue then
    match truncated.size? with
    | some n => return head ++ ["Partially scanned files: " ++ Numeral.text n]
    | none => throw .wrongKind
  else return head

end CloneScan.Report
