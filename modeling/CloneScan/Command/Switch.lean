import CloneScan.Text.Quoted

/-! Switches on a command line. An argument that starts with a dash is a long switch, perhaps with
its value after an equal sign, or a row of one-letter switches, of which the last may have its value
attached; otherwise the value is the next argument, whatever that looks like. Two dashes end the
switches. -/
namespace CloneScan.Command

inductive Switch where
  | help | version | verbose
  | blockSize | minTokens | minLines | maxBlocks | extension | excludedDir | top | workers
  | report | output | quiet
  | create | dryRun | utilitiesDir
  deriving DecidableEq, Repr

def Switch.takesValue : Switch → Bool
  | help | version | verbose | quiet | create | dryRun => false
  | _ => true

inductive Fault where
  | unknownSwitch (name : String)
  | missingValue (switch : Switch)
  | unexpectedValue (name : String)
  | notNumber (text : String)
  | extraOperand (text : String)
  | missingCommand
  | unknownCommand (name : String)
  /-- The directory to scan is the path of a file. -/
  | notDirectory (path : String)
  deriving DecidableEq, Repr

def Fault.message : Fault → String
  | unknownSwitch name => "no such option: " ++ name
  | missingValue _ => "the last option needs a value"
  | unexpectedValue name => "option " ++ name ++ " takes no value"
  | notNumber text => Text.quoted text ++ " is not a whole number"
  | extraOperand text => "unexpected argument " ++ Text.quoted text
  | missingCommand => "no command given"
  | unknownCommand name => "no such command: " ++ Text.quoted name
  | notDirectory path => Text.quoted path ++ " is a file, not a directory"

abbrev Spellings := List (String × Switch)

structure Occurrence where
  switch : Switch
  value : Option String := none
  deriving DecidableEq, Repr

structure Given where
  switches : List Occurrence
  operands : List String
  deriving DecidableEq, Repr

namespace Given

def prepend (found : List Occurrence) (g : Given) : Given :=
  { g with switches := found ++ g.switches }

def prependOperand (operand : String) (g : Given) : Given :=
  { g with operands := operand :: g.operands }

def values (g : Given) (switch : Switch) : List String :=
  (g.switches.filter (·.switch = switch)).filterMap (·.value)

/-- The value that counts is the last one. -/
def value? (g : Given) (switch : Switch) : Option String := (g.values switch).getLast?

def has (g : Given) (switch : Switch) : Bool := g.switches.any (·.switch = switch)

end Given

/-- A lone dash is an operand. -/
def looksLikeSwitch : List Char → Bool
  | '-' :: _ :: _ => true
  | _ => false

def isLong : List Char → Bool
  | '-' :: '-' :: _ => true
  | _ => false

def splitValue (arg : List Char) : List Char × Option (List Char) :=
  match arg.span (· != '=') with
  | (name, _ :: value) => (name, some value)
  | (name, []) => (name, none)

def findLong (known : Spellings) (name : List Char) : Option Switch :=
  if isLong name then known.lookup (.ofList name) else none

/-- The switches of one argument. One that still needs its value is returned apart. -/
abbrev Reading := Except Fault (List Occurrence × Option Switch)

/-- A row of one-letter switches. What follows a switch with a value is that value. -/
def readLetters (known : Spellings) : List Char → Reading
  | [] => .ok ([], none)
  | c :: rest =>
    match known.lookup (.ofList ['-', c]) with
    | none => .error (.unknownSwitch (.ofList ['-', c]))
    | some switch =>
      if switch.takesValue then
        if rest.isEmpty then .ok ([], some switch)
        else .ok ([⟨switch, some (.ofList rest)⟩], none)
      else (readLetters known rest).map fun (found, awaiting) => (⟨switch, none⟩ :: found, awaiting)

def readArgument (known : Spellings) (arg : List Char) : Reading :=
  let (name, value) := splitValue arg
  match findLong known name with
  | some switch =>
    match switch.takesValue, value with
    | true, some value => .ok ([⟨switch, some (.ofList value)⟩], none)
    | true, none => .ok ([], some switch)
    | false, none => .ok ([⟨switch, none⟩], none)
    | false, some _ => .error (.unexpectedValue (.ofList name))
  | none =>
    if isLong arg then .error (.unknownSwitch (.ofList name)) else readLetters known (arg.drop 1)

/-- Reads a command line. Where operands and switches do not mix, the first operand ends the
switches. -/
def scan (known : Spellings) (mixed : Bool) : Option Switch → List String → Except Fault Given
  | some switch, [] => .error (.missingValue switch)
  | some switch, arg :: rest =>
    (scan known mixed none rest).map (.prepend [⟨switch, some arg⟩])
  | none, [] => .ok ⟨[], []⟩
  | none, arg :: rest =>
    if arg = "--" then .ok ⟨[], rest⟩
    else if looksLikeSwitch arg.toList then do
      let (found, awaiting) ← readArgument known arg.toList
      (scan known mixed awaiting rest).map (.prepend found)
    else if mixed then (scan known mixed none rest).map (.prependOperand arg)
    else .ok ⟨[], arg :: rest⟩

end CloneScan.Command
