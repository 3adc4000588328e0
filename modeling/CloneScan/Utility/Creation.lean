import CloneScan.Files.Disk
import CloneScan.Log
import CloneScan.Text.Utf8
import CloneScan.Utility.Template

/-! Writing template files into a directory. A file that is there already is left alone; a dry run
writes nothing and tells what would be written. -/
namespace CloneScan.Utility

inductive Status where
  | present
  | planned
  | created
  deriving DecidableEq, Repr

def Status.text : Status → String
  | present => "exists"
  | planned => "would create"
  | created => "created"

/-- What became of the templates, up to the first refusal if there was one. -/
structure Creation where
  disk : Disk
  results : List (Path × Status)
  fault : Option FileFault
  /-- The directory was missing and had to be made. -/
  madeDirectory : Bool := false
  deriving Repr

namespace Creation

def prepend (result : Path × Status) (c : Creation) : Creation :=
  { c with results := result :: c.results }

def place (dryRun : Bool) (dir : Path) : Disk → List Template → Creation
  | d, [] => ⟨d, [], none, false⟩
  | d, t :: rest =>
    let target := dir.join (Path.ofText t.file)
    match d.holds target with
    | .error f => ⟨d, [], some f, false⟩
    | .ok true => prepend (target, .present) (place dryRun dir d rest)
    | .ok false =>
      if dryRun then prepend (target, .planned) (place dryRun dir d rest)
      else
        match d.write target (Text.Utf8.encode t.content) with
        | .ok after => prepend (target, .created) (place dryRun dir after rest)
        | .error f => ⟨d, [], some f, false⟩

/-- Makes the directory, if it has to be there, before the templates. -/
def run (dryRun : Bool) (dir : Path) (d : Disk) (templates : List Template) : Creation :=
  match d.holds dir with
  | .error f => ⟨d, [], some f, false⟩
  | .ok found =>
    if dryRun || found then place dryRun dir d templates
    else
      match d.makeDirectories dir.parts.length dir with
      | (after, some f) => ⟨after, [], some f, true⟩
      | (after, none) => { place dryRun dir after templates with madeDirectory := true }

def records (dir : Path) (c : Creation) : List LogRecord :=
  (if c.madeDirectory then [⟨.info, .utilities, "Creating directory: " ++ dir.text⟩] else []) ++
  c.results.filterMap fun (path, status) =>
    if status = .present then
      some ⟨.warning, .utilities, "File exists: " ++ path.text ++ " (skipping)"⟩
    else none

end CloneScan.Utility.Creation
