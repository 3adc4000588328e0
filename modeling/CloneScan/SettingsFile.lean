import CloneScan.Files.Disk
import CloneScan.Log
import CloneScan.Text.Utf8
import CloneScan.Toml.Reader

/-! The settings file of a directory is the nearest one, in the directory itself or above it. Only
one table of it is of interest; a file that is no valid document counts as if it had none. A file
that is no text, or one that goes beyond a limit of the reader, is a fault, and so is a path that is
too long to be asked for. -/
namespace CloneScan.SettingsFile

/-- Names of settings files. Of two in one directory the first counts. -/
def names : List String := [".cdfrc", ".cdf.toml"]

def tableName : String := "cdf"

/-- A directory and all above it, nearest first. -/
def upward (place : Location) : List Location :=
  (List.range (place.length + 1)).reverse.map place.take

/-- Where settings files may stand, in the order in which they count. -/
def candidates (place : Location) : List Location :=
  (upward place).flatMap fun dir => names.map fun name => dir ++ [name]

/-- The first candidate that is a file. Those after it are not asked for, so a path that is too long
is a fault only if it comes before. -/
def searchFrom (d : Disk) (place : Location) : Except FileFault (Option Location) :=
  (candidates place).findM? d.isFileAt

/-- The settings file that counts for a directory, which need not exist. -/
def search (d : Disk) (p : Path) : Except FileFault (Option Location) :=
  if p.hasNull then .error ⟨.nullCharacter, p, none⟩ else searchFrom d (d.resolve p)

inductive Finding where
  | nothing
  | unreadable (place : Location)
  | loaded (place : Location) (table : Value)
  deriving Repr

namespace Finding

/-- The table, empty if there is none. It may turn out to be no table at all. -/
def table : Finding → Value
  | nothing | unreadable _ => .record []
  | loaded _ table => table

def records (d : Disk) : Finding → List LogRecord
  | nothing => []
  | unreadable place =>
    [⟨.warning, .settings, "Ignoring unreadable config file " ++ d.absolute place⟩]
  | loaded place _ => [⟨.debug, .settings, "Loaded config from " ++ d.absolute place⟩]

end Finding

inductive Fault where
  | file (f : FileFault)
  /-- The settings file is no text. -/
  | encoding (f : Text.Utf8.Fault)
  /-- The settings file is too large in some way. -/
  | document (p : Toml.Problem)
  deriving DecidableEq, Repr

def Fault.message : Fault → String
  | file f => f.message
  | encoding f => f.message
  | document p => p.message

/-- The finding for a file. A text that breaks the rules of the format is passed over. -/
def ofContent (place : Location) (content : List UInt8) : Except Fault Finding := do
  let text ← (Text.Utf8.decode content).mapError .encoding
  match Toml.read text with
  | .ok fields => return .loaded place ((fields.lookup tableName).getD (.record []))
  | .error .invalid => return .unreadable place
  | .error p => throw (.document p)

def ofPlace (top : Node) (place : Location) : Except Fault Finding :=
  match top.at? place with
  | some (.file content) => ofContent place content
  | _ => .ok .nothing

def load (d : Disk) (p : Path) : Except Fault Finding := do
  match ← (search d p).mapError .file with
  | none => return .nothing
  | some found => ofPlace d.top found

end CloneScan.SettingsFile
