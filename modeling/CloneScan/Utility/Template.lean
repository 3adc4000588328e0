import CloneScan.Buckets
import CloneScan.Calendar
import CloneScan.Utility.Stub

/-! Template files: the entries of an artifact by type, and for each type a header and the stubs of
its first entries. Types without a file of their own share one. -/
namespace CloneScan.Utility

structure Template where
  file : String
  content : String
  deriving DecidableEq, Repr

def stubsPerType : Nat := 5

def entryType (entry : Value) : Except Value.Fault Value := do
  let type ← entry.fieldD "type" (.text "unknown")
  if type.isKey then return type else throw .wrongKind

/-- The entries of each type, types in the order in which they first appear. -/
def entriesByType (artifact : Value) : Except Value.Fault (List (Value × List Value)) := do
  let entries ← (← artifact.fieldD "duplicates" (.list [])).elements
  let typed ← entries.mapM fun entry => do return (← entryType entry, entry)
  return (Buckets.ofListBy Value.sameKey (·.1) typed).map fun (type, members) =>
    (type, members.map (·.2))

def header (type : Value) (time : Timestamp) : String :=
  "/**\n * " ++ type.display ++ " Utilities\n" ++
    " * Auto-generated utility functions to reduce code duplication\n" ++
    " * Generated: " ++ time.text ++ "\n */\n\n"

def stubs (count : Nat) (entries : List Value) : Except Value.Fault (List Stub) :=
  ((entries.take count).zipIdx).mapM fun (entry, index) => Stub.ofEntry entry index

def typeSection (time : Timestamp) (type : Value) (entries : List Value) :
    Except Value.Fault Template := do
  let file ← targetFile type
  let stubs ← stubs stubsPerType entries
  return ⟨file, header type time ++ concat (stubs.map (·.code))⟩

def addSection (part : Template) : List Template → List Template
  | [] => [part]
  | t :: rest =>
    if t.file = part.file then ⟨t.file, t.content ++ part.content⟩ :: rest
    else t :: addSection part rest

def templates (artifact : Value) (time : Timestamp) : Except Value.Fault (List Template) := do
  let byType ← entriesByType artifact
  let sections ← byType.mapM fun (type, entries) => typeSection time type entries
  return sections.foldl (fun files part => addSection part files) []

end CloneScan.Utility
