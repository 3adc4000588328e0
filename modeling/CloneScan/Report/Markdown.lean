import CloneScan.Report

/-! The report as a markdown document: every group, with a table of its places. -/
namespace CloneScan.Report

open Numeral (text)

def documentHead (r : Report) : List String := [
  "# Duplicate Code Report",
  "",
  "**Path:** `" ++ r.rootPath ++ "`  ",
  "**Files Scanned:** " ++ text r.filesScanned ++ "  ",
  "**Patterns Found:** " ++ text r.totalPatterns ++ "  ",
  "**Total Duplicated Lines:** " ++ text r.totalLines ++ "  ",
  "**Average Duplication:** " ++ r.averageLines.onePlace ++ " lines",
  ""]

def categoryTable (r : Report) : List String :=
  if r.categories.isEmpty then []
  else
    ["## Priorities by Pattern",
      "",
      "| Pattern | Groups | Line Impact |",
      "|---------|--------|-------------|"] ++
    (r.categories.map fun total =>
      "| " ++ total.category ++ " | " ++ text total.count ++ " | " ++ text total.impact ++ " |") ++
    [""]

def partialFiles (r : Report) : List String :=
  if r.truncatedFiles.isEmpty then []
  else
    ["## Partially Scanned Files", ""] ++
    (r.truncatedFiles.map fun path => "- `" ++ path ++ "`") ++
    [""]

def groupSection (previewLength : Nat) (number : Nat) (g : Group) : List String :=
  ["## " ++ text number ++ ". " ++ g.label.category ++ " (" ++ text g.impact ++ " lines)",
    "",
    "**" ++ text g.count ++ " occurrences** × **" ++ text g.lineCount ++ " lines** across **" ++
      text g.files.length ++ " files**",
    "",
    "**Suggestion:** " ++ g.label.suggestion,
    "",
    "| File | Lines |",
    "|------|-------|"] ++
  (g.blocks.map fun b =>
    "| `" ++ b.file ++ "` | " ++ text b.startLine ++ "-" ++ text b.endLine ++ " |") ++
  ["", "```", g.representative.preview previewLength, "```", ""]

def toMarkdown (settings : Settings) (r : Report) : String :=
  "\n".intercalate <|
    r.documentHead ++ r.categoryTable ++ r.partialFiles ++ ["---", ""] ++
    (r.groups.zipIdx 1).flatMap fun (g, number) =>
      groupSection settings.previewLength.val number g

end CloneScan.Report
