import CloneScan.Command.Perform
import CloneScan.Files.Change
import Std.Time.Zoned

/-! The command line. The files that a command may look at are read into memory, the command is
performed there, and what it changed is written back. -/
namespace CloneScan

/-- Directories below more levels than this are taken to be empty. -/
def deepest : Nat := 1024

def fileName (place : Location) : String := "/" ++ "/".intercalate place

/-- The files and directories of one directory. Links to directories are not followed. -/
def readEntries : Nat → List IO.FS.DirEntry → IO (List (String × Node))
  | 0, _ => return []
  | depth + 1, entries => entries.filterMapM fun entry => do
    match (← entry.path.symlinkMetadata).type with
    | .dir =>
      let below ← readEntries depth (← entry.path.readDir).toList
      return some (entry.fileName, .directory below)
    | _ =>
      match ← (IO.FS.readBinFile entry.path).toBaseIO with
      | .ok content => return some (entry.fileName, .file content.toList)
      | .error _ => return none

def readPlace (place : Location) : IO (Option Node) := do
  match ← (IO.FS.realPath (fileName place)).toBaseIO with
  | .error _ => return none
  | .ok path =>
    if ← path.isDir then
      return some (.directory (← readEntries deepest (← path.readDir).toList))
    else
      match ← (IO.FS.readBinFile path).toBaseIO with
      | .ok content => return some (.file content.toList)
      | .error _ => return none

def takePlace (d : Disk) (place : Location) : IO Disk := do
  match ← readPlace place with
  | some n => return { d with top := d.top.put place n }
  | none => return d

def loadHere : IO Disk := do
  let here := (Path.ofText (← IO.currentDir).toString).parts
  let d ← (SettingsFile.candidates here).foldlM takePlace { top := .directory [], here }
  takePlace d here

def isDirectory (place : Location) : IO Bool := do
  match ← (IO.FS.realPath (fileName place)).toBaseIO with
  | .ok path => path.isDir
  | .error _ => return false

def takeDirectory (d : Disk) (place : Location) : IO Disk := do
  if (d.top.at? place).isNone && (← isDirectory place) then
    return { d with top := d.top.put place (.directory []) }
  else return d

/-- Takes a path outside of the working directory, and the directories that lead to it. -/
def takePath (d : Disk) (path : String) : IO Disk := do
  let place := d.resolve (.ofText path)
  if d.here.isPrefixOf place then return d
  (SettingsFile.upward place.dropLast).foldlM takeDirectory (← takePlace d place)

/-- Texts in the settings file, any of which may be a path. -/
def settingsPaths (d : Disk) : List String :=
  match SettingsFile.load d (.ofText ".") with
  | .ok finding =>
    match finding.table with
    | .record fields => fields.filterMap fun field =>
      match field.2 with
      | .text s => some s
      | _ => none
    | _ => []
  | .error _ => []

def requestPaths (args : List String) : List String :=
  match Command.Invocation.ofArguments args with
  | .ok invocation => invocation.request.paths
  | .error _ => []

def writeBack : Change → IO Unit
  | .makeDirectory place => IO.FS.createDirAll (fileName place)
  | .write place content => IO.FS.writeBinFile (fileName place) ⟨content.toArray⟩
  | .remove place => IO.FS.removeFile (fileName place)

def currentTime : IO Timestamp := do
  let t ← Std.Time.PlainDateTime.now
  match Timestamp.ofParts t.year.toInt t.month.toNat t.day.toNat t.hour.toNat t.minute.toNat
      t.second.toNat (t.nanosecond.toNat / 1000 : Nat) with
  | .ok time => return time
  | .error f => throw (.userError f.message)

def lastWord : Command.Ending → String
  | .stopped (.usage f) => "Error: " ++ f.message ++ "\n"
  | .stopped (.crash c) => "Error: " ++ c.message ++ "\n"
  | _ => ""

def runCommand (args : List String) : IO UInt32 := do
  let here ← loadHere
  let d ← (requestPaths args ++ settingsPaths here).foldlM takePath here
  let outcome := (Command.ofArguments (← currentTime) args).outcome d
  (outcome.state.disk.top.changes [] (some d.top)).forM writeBack
  IO.print outcome.state.out
  let kept := outcome.state.log.filter (·.isKept (Command.levelOf args))
  IO.eprint (String.join (kept.map fun r => r.text ++ "\n"))
  IO.eprint (outcome.state.err ++ lastWord outcome.ending)
  return UInt32.ofNat outcome.ending.code

end CloneScan

def main (args : List String) : IO UInt32 := CloneScan.runCommand args
