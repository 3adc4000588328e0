import CloneScan.Report
import CloneScan.Text.Case.Upper
import CloneScan.Text.Lines

/-! The report as shown on the console: a summary, the groups of highest impact in full, and the
categories. -/
namespace CloneScan.Report

open Numeral (text)

def rule : String := .ofList (List.replicate 80 '=')

def fileNotes (r : Report) : List String :=
  (if r.skippedFiles.isEmpty then []
    else ["⚠️  " ++ text r.skippedFiles.length ++ " files could not be read:"] ++
      (r.skippedFiles.map fun (path, reason) => "     - " ++ path ++ ": " ++ reason) ++ [""]) ++
  (if r.truncatedFiles.isEmpty then []
    else ["⚠️  Block limit reached in " ++ text r.truncatedFiles.length ++
        " files (partial scan):"] ++
      (r.truncatedFiles.map fun path => "     - " ++ path) ++ [""])

def indented (s : String) : String :=
  "\n     ".intercalate ((Text.lines s.toList).map .ofList)

def groupLines (previewLength : Nat) (number : Nat) (g : Group) : List String :=
  [text number ++ ". " ++ .ofList (Text.upper g.label.category.toList),
    "   Impact: " ++ text g.count ++ " occurrences × " ++ text g.lineCount ++ " lines = " ++
      text g.impact ++ " total lines",
    "   Suggestion: " ++ g.label.suggestion,
    "   Locations:"] ++
  (g.blocks.map fun b => "     - " ++ b.location) ++
  ["   Code preview:",
    "     " ++ indented (g.representative.preview previewLength) ++ "...",
    ""]

def summaryText (r : Report) : List String := [
  "Found " ++ text r.totalPatterns ++ " duplicate code patterns",
  "",
  "📈 Summary:",
  "   Files scanned: " ++ text r.filesScanned,
  "   Total duplicated lines: " ++ text r.totalLines,
  "   Average duplication per pattern: " ++ r.averageLines.onePlace ++ " lines",
  "   Potential lines to reduce: " ++ text r.potentialReduction,
  ""]

def nextSteps (settings : Settings) : List String := [
  rule,
  "💡 Next Steps:",
  "   1. Review the top duplicates above",
  "   2. Create utility functions in " ++ settings.utilitiesDir.display ++ "/",
  "   3. Extract common patterns to reusable modules (cdf suggest)",
  "   4. Run this analysis again to verify improvements",
  rule]

def textLines (settings : Settings) (r : Report) : List String :=
  ["", rule, "📊 DUPLICATE CODE ANALYSIS REPORT", rule, ""] ++
  if r.groups.isEmpty then
    ["✅ No significant code duplication found!", ""] ++ r.fileNotes
  else
    r.summaryText ++
    ["🔝 Top " ++ text settings.topCount.val ++ " Duplication Issues (by impact):", ""] ++
    ((r.groups.take settings.topCount.val).zipIdx 1).flatMap (fun (g, number) =>
      groupLines settings.consolePreviewLength.val number g) ++
    ["🎯 Refactoring Priorities by Pattern:", ""] ++
    (r.categories.map fun total =>
      "   " ++ total.category ++ ": " ++ text total.count ++ " patterns, " ++
        text total.impact ++ " line impact") ++
    [""] ++ r.fileNotes ++ nextSteps settings

def toText (settings : Settings) (r : Report) : String := "\n".intercalate (r.textLines settings)

end CloneScan.Report
