import CloneScan.Analysis
import CloneScan.Json.Reader
import CloneScan.Report.Format

/-! The stored report. It is written beside its place first and then moved there, so a reader
finds either the old report or the whole new one. Reading accepts any JSON record that lists
duplicates. -/
namespace CloneScan.Store

inductive Fault where
  | notFound (path : Path)
  | notReport (path : Path)
  /-- A path without a last part has no place beside it. -/
  | unnamed (path : Path)
  | file (f : FileFault)
  | encoding (f : Text.Utf8.Fault)
  | json (e : Json.Error)
  | report (f : Report.Fault)
  deriving DecidableEq, Repr

def Fault.message : Fault → String
  | notFound path => "No duplication report found at " ++ path.text
  | notReport path => path.text ++ " is not a duplication report"
  | unnamed path => "PosixPath(" ++ Text.quoted path.text ++ ") has an empty name"
  | file f => f.message
  | encoding f => f.message
  | json e => e.message
  | report f => f.message

/-- Whether a report was found that cannot be used. Other faults lie with the files, or with a
report that is nested too deep to be looked at. -/
def Fault.isUnusable : Fault → Bool
  | notReport _ | unnamed _ | encoding _ => true
  | json e => !e.problem.isNesting
  | _ => false

def temporarySuffix : String := ".tmp"

/-- The disk afterwards, and why the report is not saved if it is not. The place beside the report
keeps what was written there when a later step is refused. -/
def save (settings : Settings) (r : Report) (d : Disk) (path : Path) : Disk × Option Fault :=
  match path.withSuffix? (path.suffix ++ temporarySuffix) with
  | none => (d, some (.unnamed path))
  | some beside =>
    let rendered := r.render .json settings
    let content := match rendered with
      | .ok text => Text.Utf8.encode text
      | .error _ => []
    match d.write beside content, rendered with
    | .error f, _ => (d, some (.file f))
    | .ok written, .error f => (written, some (.report f))
    | .ok written, .ok _ =>
      match written.rename beside path with
      | .ok after => (after, none)
      | .error f => (written, some (.file f))

def duplicates? : Value → Option (List Value)
  | .record fields =>
    match fields.lookup "duplicates" with
    | some (.list entries) => some entries
    | _ => none
  | _ => none

def readText (d : Disk) (path : Path) : Except Fault String := do
  let content ← (d.read path).mapError .file
  let text ← (Text.Utf8.decode content).mapError .encoding
  return .ofList (Text.unifyNewlines text.toList)

def load (d : Disk) (path : Path) : Except Fault Value := do
  if !(← (d.isFile path).mapError .file) then throw (.notFound path)
  let text ← readText d path
  let v ← (Json.read text).mapError .json
  match duplicates? v with
  | some _ => return v
  | none => throw (.notReport path)

/-- Deletes a report if there is one, and tells whether there was. -/
def clear (d : Disk) (path : Path) : Except FileFault (Disk × Bool) := do
  if ← d.holds path then return (← d.delete path, true) else return (d, false)

end CloneScan.Store
