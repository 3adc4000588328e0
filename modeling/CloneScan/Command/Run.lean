import CloneScan.Command.Switch
import CloneScan.Console.Plain
import CloneScan.Console.ProgressBar
import CloneScan.Files.Disk
import CloneScan.Log
import CloneScan.SettingsFile
import CloneScan.Store
import CloneScan.Value.Access

/-! What a command does step by step: it prints, logs and changes the disk, and it may stop early.
Whatever was done before a stop stays done. -/
namespace CloneScan.Command

/-- A fault that the commands have no answer for. -/
inductive Crash where
  | value (f : Value.Fault)
  | file (f : FileFault)
  | store (f : Store.Fault)
  | report (f : Report.Fault)
  | settingsFile (f : SettingsFile.Fault)
  | progress (f : Console.Fault)
  deriving DecidableEq, Repr

def Crash.message : Crash → String
  | value f => f.message
  | file f => f.message
  | store f => f.message
  | report f => f.message
  | settingsFile f => f.message
  | progress f => f.message

inductive Stop where
  | usage (f : Fault)
  /-- The command has told what is wrong. -/
  | refused
  | crash (c : Crash)
  deriving DecidableEq, Repr

structure State where
  disk : Disk
  out : String := ""
  err : String := ""
  log : List LogRecord := []

abbrev Run := ExceptT Stop (StateM State)

namespace Run

def print (text : String) : Run Unit :=
  modify fun s => { s with out := s.out ++ Console.plain text }

def echo (line : String) : Run Unit := print (line ++ "\n")

def complain (line : String) : Run Unit :=
  modify fun s => { s with err := s.err ++ Console.plain (line ++ "\n") }

def tell (records : List LogRecord) : Run Unit :=
  modify fun s => { s with log := s.log ++ records }

def disk : Run Disk := return (← get).disk

def setDisk (d : Disk) : Run Unit := modify fun s => { s with disk := d }

def refuse (line : String) : Run α := do
  complain line
  throw .refused

/-- Stops at a fault that nobody answers for. -/
def need (crash : ε → Crash) : Except ε α → Run α
  | .ok a => pure a
  | .error f => throw (.crash (crash f))

/-- A path has to be a text. -/
def pathOf : Value → Run Path
  | .text s => pure (.ofText s)
  | _ => throw (.crash (.value .wrongKind))

end Run

inductive Ending where
  | finished
  | stopped (why : Stop)
  deriving DecidableEq, Repr

/-- The exit code tells a wrong command line from everything else that went wrong. -/
def Ending.code : Ending → Nat
  | finished => 0
  | stopped (.usage _) => 2
  | stopped _ => 1

structure Outcome where
  state : State
  ending : Ending

def Run.outcome (command : Run Unit) (d : Disk) : Outcome :=
  match command.run.run { disk := d } with
  | (.ok _, s) => ⟨s, .finished⟩
  | (.error why, s) => ⟨s, .stopped why⟩

end CloneScan.Command
