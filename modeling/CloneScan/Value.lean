import CloneScan.Calendar
import CloneScan.Number.Shortest
import CloneScan.Text.Quoted

/-! Values of unknown shape: what a settings file or a stored report holds before anyone has
looked at it. A record keeps its fields in order of appearance. `Value.display` is the plain text of
a value and `Value.literal` the text it has inside a list; `Value.writeFault?` tells which values
are too large to be written. -/
namespace CloneScan

inductive Value where
  | null
  | bool (b : Bool)
  | int (i : Int)
  | float (x : Binary64)
  | text (s : String)
  | moment (m : Moment)
  | list (items : List Value)
  | record (fields : List (String × Value))
  deriving Repr, Inhabited

namespace Value

def typeName : Value → String
  | null => "NoneType"
  | bool _ => "bool"
  | int _ => "int"
  | float _ => "float"
  | text _ => "str"
  | moment m => m.typeName
  | list _ => "list"
  | record _ => "dict"

def boolName (b : Bool) : String := if b then "True" else "False"

mutual
/-- Texts are quoted; everything else is as `display` has it. -/
def literal : Value → String
  | null => "None"
  | bool b => boolName b
  | int i => Numeral.text i
  | float x => x.text
  | text s => Text.quoted s
  | moment m => m.literal
  | list items => "[" ++ literals items ++ "]"
  | record fields => "\x7b" ++ fieldLiterals fields ++ "\x7d"

def literals : List Value → String
  | [] => ""
  | [v] => literal v
  | v :: rest => literal v ++ ", " ++ literals rest

def fieldLiterals : List (String × Value) → String
  | [] => ""
  | [(name, v)] => Text.quoted name ++ ": " ++ literal v
  | (name, v) :: rest => Text.quoted name ++ ": " ++ literal v ++ ", " ++ fieldLiterals rest
end

def display : Value → String
  | text s => s
  | moment m => m.text
  | v => literal v

inductive WriteFault where
  | numberTooLong
  | nestedTooDeep
  deriving DecidableEq, Repr

def WriteFault.message : WriteFault → String
  | numberTooLong => Numeral.Fault.tooLongToWrite.message
  | nestedTooDeep => "maximum recursion depth exceeded while getting the repr of an object"

/-- Levels of lists and records that are read and written. -/
def deepest : Nat := 980

def writeIntFault? (i : Int) : Option WriteFault :=
  if Numeral.isWritable i then none else some .numberTooLong

mutual
/-- What is wrong with the first part of a value that is not written; `levels` may still follow. -/
def writeFaultWithin? (levels : Nat) : Value → Option WriteFault
  | int i => writeIntFault? i
  | list items => if levels = 0 then some .nestedTooDeep else writeFaultIn? (levels - 1) items
  | record fields =>
    if levels = 0 then some .nestedTooDeep else writeFaultInFields? (levels - 1) fields
  | _ => none

def writeFaultIn? (levels : Nat) : List Value → Option WriteFault
  | [] => none
  | v :: rest => (writeFaultWithin? levels v).or (writeFaultIn? levels rest)

def writeFaultInFields? (levels : Nat) : List (String × Value) → Option WriteFault
  | [] => none
  | (_, v) :: rest => (writeFaultWithin? levels v).or (writeFaultInFields? levels rest)
end

def writeFault? (v : Value) : Option WriteFault := writeFaultWithin? deepest v

def isNull : Value → Bool
  | null => true
  | _ => false

/-- The elements of a list, the characters of a text, the names of a record. -/
def elements? : Value → Option (List Value)
  | list items => some items
  | text s => some (s.toList.map fun c => text (.singleton c))
  | record fields => some (fields.map fun field => text field.1)
  | _ => none

/-- How many elements there are. -/
def size? (v : Value) : Option Nat := v.elements?.map List.length

/-- Zero and everything without elements count as false. -/
def isTrue : Value → Bool
  | null => false
  | bool b => b
  | int i => i != 0
  | float x => !x.isZero
  | text s => !s.isEmpty
  | moment _ => true
  | list items => !items.isEmpty
  | record fields => !fields.isEmpty

/-- Puts a field in its place, or at the end if the name is new. -/
def insertField (name : String) (v : Value) : List (String × Value) → List (String × Value)
  | [] => [(name, v)]
  | (other, w) :: rest =>
    if other == name then (name, v) :: rest else (other, w) :: insertField name v rest

end CloneScan.Value
