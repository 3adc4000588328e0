import CloneScan.Report.Artifact
import CloneScan.Report.Markdown
import CloneScan.Report.Text
import CloneScan.Text.Case.Lower

/-! The three forms of a report, how a file name chooses one, and when one cannot be written. -/
namespace CloneScan.Report

inductive Format where
  | text
  | markdown
  | json
  deriving DecidableEq, Repr

namespace Format

def name : Format → String
  | text => "text"
  | markdown => "markdown"
  | json => "json"

def ofName? : String → Option Format
  | "text" => some text
  | "markdown" => some markdown
  | "json" => some json
  | _ => none

/-- Capitals in an extension do not matter. -/
def ofExtension? (suffix : String) : Option Format :=
  match String.ofList (Text.lower suffix.toList) with
  | ".md" => some markdown
  | ".txt" => some text
  | ".json" => some json
  | _ => none

end Format

inductive Fault where
  | unknownFormat (name : String)
  /-- The lines per group are beyond the largest number. -/
  | averageTooLarge
  | write (f : Value.WriteFault)
  deriving DecidableEq, Repr

def Fault.message : Fault → String
  | unknownFormat name => "Unknown format: " ++ name
  | averageTooLarge => "integer division result too large for a float"
  | write f => f.message

def averageFault? (r : Report) : Option Fault :=
  if r.meanLines.isFinite then none else some .averageTooLarge

def numbersFault? (numbers : List Int) : Option Fault :=
  (numbers.findSome? Value.writeIntFault?).map .write

/-- The numbers that are told of a group. -/
def groupNumbers (g : Group) : List Int :=
  [g.lineCount, g.impact] ++ g.blocks.flatMap fun b => [b.startLine, b.endLine]

def groupsNumbers (r : Report) (groups : List Group) : List Int :=
  groups.flatMap groupNumbers ++
    r.categories.flatMap fun total => [(total.count : Int), total.impact]

/-- Why a report cannot be written in one of its forms. The average is worked out after the total
is written, but before anything of the artifact is. -/
def fault? (format : Format) (settings : Settings) (r : Report) : Option Fault :=
  match format with
  | .text =>
    if r.groups.isEmpty then none
    else
      (numbersFault? [r.filesScanned, r.totalLines]).or <| r.averageFault?.or <|
        (numbersFault? ([r.potentialReduction, settings.topCount.val] ++
          r.groupsNumbers (r.groups.take settings.topCount.val))).or <|
        settings.utilitiesDir.writeFault?.map .write
  | .markdown =>
    (numbersFault? [r.filesScanned, r.totalLines]).or <| r.averageFault?.or <|
      numbersFault? (r.groupsNumbers r.groups)
  | .json => r.averageFault?.or <| (r.artifact settings).writeFault?.map .write

def render (format : Format) (settings : Settings) (r : Report) : Except Fault String :=
  match r.fault? format settings with
  | some f => .error f
  | none =>
    .ok <| match format with
      | .text => r.toText settings
      | .markdown => r.toMarkdown settings
      | .json => r.toJson settings

end CloneScan.Report
