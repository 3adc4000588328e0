import CloneScan.Files.Node
import CloneScan.Path
import CloneScan.Text.Numeral
import CloneScan.Text.Quoted

/-! A tree of files with a working directory. Paths lead from the working directory or from the
top; every name but the last has to be a directory. Each operation gives the disk afterwards or
the cause of its refusal, and a refused operation changes nothing. -/
namespace CloneScan

inductive Cause where
  | notFound
  | alreadyExists
  | notDirectory
  | isDirectory
  /-- A file cannot take the place of a dot name. -/
  | busy
  /-- A name or a path is longer than names and paths may be. -/
  | nameTooLong
  | nullCharacter
  deriving DecidableEq, Repr

namespace Cause

def code? : Cause → Option Nat
  | notFound => some 2
  | alreadyExists => some 17
  | notDirectory => some 20
  | isDirectory => some 21
  | busy => some 16
  | nameTooLong => some 36
  | nullCharacter => none

def text : Cause → String
  | notFound => "No such file or directory"
  | alreadyExists => "File exists"
  | notDirectory => "Not a directory"
  | isDirectory => "Is a directory"
  | busy => "Device or resource busy"
  | nameTooLong => "File name too long"
  | nullCharacter => "embedded null byte"

end Cause

structure FileFault where
  cause : Cause
  path : Path
  target : Option Path := none
  deriving DecidableEq, Repr

/-- A cause without a number is told by itself. -/
def FileFault.message (f : FileFault) : String :=
  match f.cause.code? with
  | none => f.cause.text
  | some code =>
    "[Errno " ++ Numeral.text code ++ "] " ++ f.cause.text ++ ": " ++ Text.quoted f.path.text ++
      match f.target with
      | some target => " -> " ++ Text.quoted target.text
      | none => ""

structure Disk where
  top : Node
  /-- How paths from the top are introduced. -/
  topName : String := ""
  /-- The working directory. -/
  here : Location := []
  deriving Repr

namespace Disk

/-- One step down, or up for two dots; the top is its own parent. -/
def step (place : Location) (part : String) : Location :=
  if part = ".." then place.dropLast else place ++ [part]

/-- Where a path leads if nothing is asked of the names on its way. -/
def resolve (d : Disk) (p : Path) : Location :=
  p.parts.foldl step (match p.anchor with | .relative => d.here | _ => [])

def longestName : Nat := 255

def longestPath : Nat := 4095

/-- Where a row of parts leads. The last part need not exist. -/
def walk (top : Node) : Location → List String → Except Cause Location
  | place, [] => .ok place
  | place, part :: rest =>
    match top.at? place with
    | none => .error .notFound
    | some (.file _) => .error .notDirectory
    | some (.directory _) =>
      if longestName < part.utf8ByteSize then .error .nameTooLong
      else walk top (step place part) rest

/-- The spelling of a path is looked at before the files are. -/
def locate (d : Disk) (p : Path) : Except Cause Location :=
  if p.hasNull then .error .nullCharacter
  else if longestPath < p.text.utf8ByteSize then .error .nameTooLong
  else walk d.top (match p.anchor with | .relative => d.here | _ => []) p.parts

def node? (d : Disk) (p : Path) : Option Node :=
  match d.locate p with
  | .ok place => d.top.at? place
  | .error _ => none

/-- What stands at a path, if anything does. To ask is a fault only where a name is too long. -/
def look (d : Disk) (p : Path) : Except FileFault (Option Node) :=
  match d.locate p with
  | .error .nameTooLong => .error ⟨.nameTooLong, p, none⟩
  | _ => .ok (d.node? p)

def absolute (d : Disk) (place : Location) : String :=
  d.topName ++ String.join (place.map ("/" ++ ·))

def isFile (d : Disk) (p : Path) : Except FileFault Bool :=
  (d.look p).map fun n => n.any Node.isFile

/-- The same question for a location, which has names alone and no steps up. -/
def isFileAt (d : Disk) (place : Location) : Except FileFault Bool :=
  match d.locate ⟨.root, place⟩ with
  | .error .nameTooLong => .error ⟨.nameTooLong, .ofText (d.absolute place), none⟩
  | _ => .ok ((d.top.at? place).any Node.isFile)

def isDirectory (d : Disk) (p : Path) : Except FileFault Bool :=
  (d.look p).map fun n => n.any Node.isDirectory

def holds (d : Disk) (p : Path) : Except FileFault Bool := (d.look p).map Option.isSome

def read (d : Disk) (p : Path) : Except FileFault (List UInt8) :=
  match d.locate p with
  | .error cause => .error ⟨cause, p, none⟩
  | .ok place =>
    match d.top.at? place with
    | some (.file content) => .ok content
    | some (.directory _) => .error ⟨.isDirectory, p, none⟩
    | none => .error ⟨.notFound, p, none⟩

def put (d : Disk) (place : Location) (content : List UInt8) : Disk :=
  { d with top := d.top.put place (.file content) }

/-- Writes a whole file, new or not. Its directory has to exist. -/
def write (d : Disk) (p : Path) (content : List UInt8) : Except FileFault Disk :=
  match d.locate p with
  | .error cause => .error ⟨cause, p, none⟩
  | .ok place =>
    if (d.top.at? place).any Node.isDirectory then .error ⟨.isDirectory, p, none⟩
    else .ok (d.put place content)

/-- Gives a file another name, in the place of any file that had it. -/
def rename (d : Disk) (p q : Path) : Except FileFault Disk :=
  match d.locate p, d.locate q with
  | .error cause, _ | _, .error cause => .error ⟨cause, p, some q⟩
  | .ok source, .ok target =>
    if !p.endsInName || !q.endsInName then .error ⟨.busy, p, some q⟩
    else match d.top.at? source with
    | some (.file content) =>
      if (d.top.at? target).any Node.isDirectory then .error ⟨.isDirectory, p, some q⟩
      else .ok { d with top := (d.top.erase source).put target (.file content) }
    | some (.directory _) => .error ⟨.isDirectory, p, some q⟩
    | none => .error ⟨.notFound, p, some q⟩

def delete (d : Disk) (p : Path) : Except FileFault Disk :=
  match d.locate p with
  | .error cause => .error ⟨cause, p, none⟩
  | .ok place =>
    match d.top.at? place with
    | some (.file _) => .ok { d with top := d.top.erase place }
    | some (.directory _) => .error ⟨.isDirectory, p, none⟩
    | none => .error ⟨.notFound, p, none⟩

def makeDirectory (d : Disk) (p : Path) : Except FileFault Disk :=
  match d.locate p with
  | .error cause => .error ⟨cause, p, none⟩
  | .ok place =>
    if (d.top.at? place).isSome then .error ⟨.alreadyExists, p, none⟩
    else .ok { d with top := d.top.put place (.directory []) }

/-- A directory that may exist already. -/
def ensureDirectory (d : Disk) (p : Path) : Except FileFault Disk :=
  match d.makeDirectory p with
  | .ok after => .ok after
  | .error f =>
    if f.cause != .notFound && (d.node? p).any Node.isDirectory then .ok d else .error f

/-- A directory with all directories above it; `depth` counts the parts still to be tried. What
was made before a refusal stays. -/
def makeDirectories : Nat → Disk → Path → Disk × Option FileFault
  | depth, d, p =>
    match d.ensureDirectory p with
    | .ok after => (after, none)
    | .error f =>
      match depth with
      | 0 => (d, some f)
      | depth + 1 =>
        if f.cause != .notFound then (d, some f)
        else
          match makeDirectories depth d p.parent with
          | (after, some f) => (after, some f)
          | (after, none) =>
            match after.ensureDirectory p with
            | .ok last => (last, none)
            | .error f => (after, some f)

end CloneScan.Disk
