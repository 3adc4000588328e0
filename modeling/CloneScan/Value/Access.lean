import CloneScan.Value

/-! Looking into values of unknown shape, and the ways in which that can fail. -/
namespace CloneScan.Value

inductive Fault where
  /-- Fields were asked of a value that is no record, or letters of one that is no text. -/
  | noMember
  /-- A value of this kind cannot be used there. -/
  | wrongKind
  | missingField (name : String)
  /-- A text cannot be made of a value. -/
  | write (f : WriteFault)
  deriving DecidableEq, Repr

/-- A missing field is reported by its quoted name. -/
def Fault.message : Fault → String
  | noMember => "no such member"
  | wrongKind => "value of the wrong kind"
  | missingField name => Text.quoted name
  | write f => f.message

/-- A field of a record, with a value to take in its absence. -/
def fieldD (v : Value) (name : String) (absent : Value) : Except Fault Value :=
  match v with
  | record fields => .ok ((fields.lookup name).getD absent)
  | _ => .error .noMember

/-- A field that has to be there. Other kinds of values have no named parts. -/
def part (v : Value) (name : String) : Except Fault Value :=
  match v with
  | record fields =>
    match fields.lookup name with
    | some w => .ok w
    | none => .error (.missingField name)
  | _ => .error .wrongKind

def elements (v : Value) : Except Fault (List Value) :=
  match v.elements? with
  | some items => .ok items
  | none => .error .wrongKind

def asText : Value → Except Fault String
  | text s => .ok s
  | _ => .error .noMember

/-- Values that can head a group: lists and records cannot. -/
def isKey : Value → Bool
  | list _ | record _ => false
  | _ => true

/-- Truth values and whole numbers as numbers. -/
def asInt? : Value → Option Int
  | bool b => some (if b then 1 else 0)
  | int i => some i
  | _ => none

/-- Whether a whole number and a binary number are equal. -/
def equalsFloat (i : Int) (x : Binary64) : Bool :=
  x.isFinite && i.natAbs * x.ratio.2 == x.ratio.1 && (x.isZero || x.isNegative == decide (i < 0))

/-- Whether two values head one group. Numbers are compared by what they are worth. -/
def sameKey (v w : Value) : Bool :=
  match v.asInt?, w.asInt? with
  | some i, some j => i == j
  | some i, none => match w with
    | float x => equalsFloat i x
    | _ => false
  | none, some j => match v with
    | float x => equalsFloat j x
    | _ => false
  | none, none => match v, w with
    | null, null => true
    | float x, float y => x == y || (x.isZero && y.isZero)
    | text s, text t => s == t
    | moment m, moment n => m == n
    | _, _ => false

end CloneScan.Value
