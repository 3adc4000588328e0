import CloneScan.Category.Rule
import CloneScan.Index

/-! The outcome of a run: ranked and labelled groups with what they add up to. A report carries the
totals of its categories; every other total is computed from the groups when it is asked for. -/
namespace CloneScan

def totalImpact (groups : List Group) : Int := groups.foldr (fun g total => g.impact + total) 0

structure CategoryTotal where
  category : String
  count : Nat
  impact : Int
  deriving DecidableEq, Repr

/-- Totals of the categories, by impact; categories of equal impact stand in the order in which
they were first met. -/
def CategoryTotal.ofGroups (groups : List Group) : List CategoryTotal :=
  Group.rankBy impact <| (Buckets.ofList (·.label.category) groups).map fun (category, members) =>
    ⟨category, members.length, totalImpact members⟩

structure Report where
  rootPath : String
  groups : List Group
  categories : List CategoryTotal
  filesScanned : Nat := 0
  /-- Files that could not be read, each with the reason. -/
  skippedFiles : List (String × String) := []
  truncatedFiles : List String := []
  /-- Lines that a shared function is taken to cost. -/
  minLines : Nat
  deriving DecidableEq, Repr

namespace Report

def ofGroups (settings : Settings) (rootPath : String) (groups : List Group)
    (index : Option Index) : Report :=
  match index with
  | some index => {
      rootPath, groups
      categories := CategoryTotal.ofGroups groups
      filesScanned := index.filesScanned
      skippedFiles := index.skipped
      truncatedFiles := index.truncatedFiles
      minLines := settings.minLines.val }
  | none => {
      rootPath, groups
      categories := CategoryTotal.ofGroups groups
      minLines := settings.minLines.val }

def totalPatterns (r : Report) : Nat := r.groups.length

def totalLines (r : Report) : Int := totalImpact r.groups

/-- Lines per group before rounding to a tenth. -/
def meanLines (r : Report) : Binary64 :=
  if r.groups.isEmpty then .zero false
  else .ofRatio (decide (r.totalLines < 0)) r.totalLines.natAbs r.groups.length

def averageLines (r : Report) : Binary64 := r.meanLines.roundToTenth

/-- Lines that would go if each group became one shared function. -/
def potentialReduction (r : Report) : Int := r.totalLines - r.totalPatterns * r.minLines

end CloneScan.Report
