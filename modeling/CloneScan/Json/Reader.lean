import CloneScan.Value

/-! Reading JSON. Every reader takes the text that is left and returns a value with what is left
after it; a fault carries the text from where it is reported, which is turned into a line and a
column at the very end. -/
namespace CloneScan.Json

inductive Problem where
  | expectingValue
  | expectingName
  | expectingColon
  | expectingComma
  | extraData
  | unterminatedText
  | controlCharacter
  | invalidEscape
  | invalidUnicodeEscape
  | byteOrderMark
  | numeral (f : Numeral.Fault)
  /-- A list inside of more lists and records than are read. -/
  | listTooDeep
  | recordTooDeep
  deriving DecidableEq, Repr

def Problem.message : Problem → String
  | expectingValue => "Expecting value"
  | expectingName => "Expecting property name enclosed in double quotes"
  | expectingColon => "Expecting ':' delimiter"
  | expectingComma => "Expecting ',' delimiter"
  | extraData => "Extra data"
  | unterminatedText => "Unterminated string starting at"
  | controlCharacter => "Invalid control character at"
  | invalidEscape => "Invalid \\escape"
  | invalidUnicodeEscape => "Invalid \\uXXXX escape"
  | byteOrderMark => "Unexpected UTF-8 BOM (decode using utf-8-sig)"
  | numeral f => f.message
  | listTooDeep => tooDeep "array"
  | recordTooDeep => tooDeep "object"
where
  tooDeep (kind : String) : String :=
    "maximum recursion depth exceeded while decoding a JSON " ++ kind ++ " from a unicode string"

/-- Whether a text is refused for its size rather than for what it says. -/
def Problem.isLimit : Problem → Bool
  | numeral _ | listTooDeep | recordTooDeep => true
  | _ => false

def Problem.isNesting : Problem → Bool
  | listTooDeep | recordTooDeep => true
  | _ => false

structure Fault where
  problem : Problem
  rest : List Char
  deriving DecidableEq, Repr

abbrev Step (α : Type) := Except Fault (α × List Char)

def isSpace (c : Char) : Bool := c == ' ' || c == '\t' || c == '\n' || c == '\r'

def skipSpace (s : List Char) : List Char := s.dropWhile isSpace

def hexValue? (c : Char) : Option Nat :=
  let n := c.toNat
  if 48 ≤ n ∧ n ≤ 57 then some (n - 48)
  else if 97 ≤ n ∧ n ≤ 102 then some (n - 87)
  else if 65 ≤ n ∧ n ≤ 70 then some (n - 55)
  else none

def hexValue4? (a b c d : Char) : Option Nat := do
  return 4096 * (← hexValue? a) + 256 * (← hexValue? b) + 16 * (← hexValue? c) + (← hexValue? d)

def isHighSurrogate (n : Nat) : Bool := 0xD800 ≤ n && n ≤ 0xDBFF
def isLowSurrogate (n : Nat) : Bool := 0xDC00 ≤ n && n ≤ 0xDFFF

/-- Stands for half a pair of surrogates, which is no character. -/
def replacement : Char := Char.ofNat 0xFFFD

def unitChar (n : Nat) : Char :=
  if isHighSurrogate n || isLowSurrogate n then replacement else Char.ofNat n

def joinSurrogates (high low : Nat) : Char :=
  Char.ofNat (0x10000 + (high - 0xD800) * 0x400 + (low - 0xDC00))

def simpleEscape? : Char → Option Char
  | '"' => some '"'
  | '\\' => some '\\'
  | '/' => some '/'
  | 'b' => some '\x08'
  | 'f' => some '\x0c'
  | 'n' => some '\n'
  | 'r' => some '\r'
  | 't' => some '\t'
  | _ => none

def prepend (cs : List Char) (step : Step (List Char)) : Step (List Char) :=
  step.map fun (more, rest) => (cs ++ more, rest)

/-- Characters that can be given once another code unit is known, and the unit that still waits
for its other half. -/
def takeUnit (waiting : Option Nat) (unit : Nat) : List Char × Option Nat :=
  match waiting with
  | some high =>
    if isLowSurrogate unit then ([joinSurrogates high unit], none)
    else if isHighSurrogate unit then ([replacement], some unit)
    else ([replacement, unitChar unit], none)
  | none => if isHighSurrogate unit then ([], some unit) else ([unitChar unit], none)

/-- What a unit without its other half becomes. -/
def release (waiting : Option Nat) : List Char :=
  if waiting.isSome then [replacement] else []

/-- The rest of a text after its opening quote; `opening` is the text from that quote on. A
code unit in hexadecimal has to be followed by something. -/
def readText (opening : List Char) (waiting : Option Nat) : List Char → Step (List Char)
  | [] => .error ⟨.unterminatedText, opening⟩
  | c :: rest =>
    if c = '"' then .ok (release waiting, rest)
    else if c = '\\' then
      match rest with
      | [] => .error ⟨.unterminatedText, opening⟩
      | e :: after =>
        if e = 'u' then
          match after with
          | p :: q :: r :: s :: more =>
            match if more.isEmpty then none else hexValue4? p q r s with
            | none => .error ⟨.invalidUnicodeEscape, e :: after⟩
            | some unit =>
              prepend (takeUnit waiting unit).1 (readText opening (takeUnit waiting unit).2 more)
          | _ => .error ⟨.invalidUnicodeEscape, e :: after⟩
        else
          match simpleEscape? e with
          | some d => prepend (release waiting ++ [d]) (readText opening none after)
          | none => .error ⟨.invalidEscape, c :: rest⟩
    else if c.toNat < 0x20 then .error ⟨.controlCharacter, c :: rest⟩
    else prepend (release waiting ++ [c]) (readText opening none rest)

/-- The digits before the point: a lone zero, or a row that starts with another digit. -/
def wholePart? : List Char → Option (List Char × List Char)
  | '0' :: rest => some (['0'], rest)
  | s =>
    match s.takeWhile Char.isDigit with
    | [] => none
    | ds => some (ds, s.dropWhile Char.isDigit)

def fraction : List Char → List Char × List Char
  | '.' :: rest =>
    match rest.takeWhile Char.isDigit with
    | [] => ([], '.' :: rest)
    | ds => (ds, rest.dropWhile Char.isDigit)
  | s => ([], s)

def powerSign : List Char → Bool × List Char
  | '-' :: rest => (true, rest)
  | '+' :: rest => (false, rest)
  | s => (false, s)

def exponent? : List Char → Option Int × List Char
  | s@(e :: rest) =>
    if e == 'e' || e == 'E' then
      let (negative, rest) := powerSign rest
      match rest.takeWhile Char.isDigit with
      | [] => (none, s)
      | ds =>
        let n : Int := Numeral.value ds
        (some (if negative then -n else n), rest.dropWhile Char.isDigit)
    else (none, s)
  | [] => (none, [])

/-- What the parts of a number are worth. Without places and power it is a whole number. -/
def numberValue (negative : Bool) (whole places : List Char) (power? : Option Int) :
    Except Numeral.Fault Value :=
  if places.isEmpty && power?.isNone then
    if Numeral.longest < whole.length then .error (.tooLongToRead whole.length)
    else
      let n : Int := Numeral.value whole
      .ok (.int (if negative then -n else n))
  else
    let digits := Numeral.value (whole ++ places)
    .ok (.float (.ofDecimal negative digits (power?.getD 0 - places.length)))

def readUnsigned (negative : Bool) (s : List Char) : Except Problem (Value × List Char) :=
  match wholePart? s with
  | none => .error .expectingValue
  | some (whole, rest) =>
    let places := fraction rest
    let power := exponent? places.2
    match numberValue negative whole places.1 power.1 with
    | .ok v => .ok (v, power.2)
    | .error f => .error (.numeral f)

def minusSign : List Char → Bool × List Char
  | '-' :: rest => (true, rest)
  | s => (false, s)

/-- Whatever is wrong with a number is reported from its first character on. -/
def readNumber (s : List Char) : Step Value :=
  (readUnsigned (minusSign s).1 (minusSign s).2).mapError (⟨·, s⟩)

def words : List (String × Value) := [
  ("null", .null), ("true", .bool true), ("false", .bool false), ("NaN", .float .undefined),
  ("Infinity", .float (.infinite false)), ("-Infinity", .float (.infinite true))]

def readWord? (s : List Char) : Option (Value × List Char) :=
  words.findSome? fun (word, v) => (word.toList.isPrefixOf? s).map (v, ·)

def readScalar (s : List Char) : Step Value :=
  match readWord? s with
  | some (v, rest) => .ok (v, rest)
  | none => readNumber s

/-- A repeated name keeps its first place and its last value. -/
def distinct (fields : List (String × Value)) : List (String × Value) :=
  fields.foldl (fun fields (name, v) => Value.insertField name v fields) []

/-- Elements up to and with the closing bracket. `fuel` bounds their number; one more than the
length of the text is enough. -/
def readItems (read : List Char → Step Value) :
    Nat → List Char → Except Fault (List Value × List Char)
  | 0, s => .error ⟨.expectingValue, s⟩
  | fuel + 1, s => do
    let (v, rest) ← read s
    match skipSpace rest with
    | ']' :: rest => return ([v], rest)
    | ',' :: rest =>
      let (items, rest) ← readItems read fuel (skipSpace rest)
      return (v :: items, rest)
    | rest => throw ⟨.expectingComma, rest⟩

def readFields (read : List Char → Step Value) :
    Nat → List Char → Except Fault (List (String × Value) × List Char)
  | 0, s => .error ⟨.expectingName, s⟩
  | fuel + 1, s =>
    match s with
    | '"' :: rest => do
      let (name, rest) ← readText s none rest
      match skipSpace rest with
      | ':' :: rest =>
        let (v, rest) ← read (skipSpace rest)
        match skipSpace rest with
        | '\x7d' :: rest => return ([(.ofList name, v)], rest)
        | ',' :: rest =>
          let (fields, rest) ← readFields read fuel (skipSpace rest)
          return ((.ofList name, v) :: fields, rest)
        | rest => throw ⟨.expectingComma, rest⟩
      | rest => throw ⟨.expectingColon, rest⟩
    | s => .error ⟨.expectingName, s⟩

def readValue : Nat → List Char → Step Value
  | levels, '[' :: rest =>
    match levels with
    | 0 => .error ⟨.listTooDeep, '[' :: rest⟩
    | levels + 1 =>
      match skipSpace rest with
      | ']' :: rest => .ok (.list [], rest)
      | rest =>
        (readItems (readValue levels) (rest.length + 1) rest).map fun (items, rest) =>
          (.list items, rest)
  | levels, '\x7b' :: rest =>
    match levels with
    | 0 => .error ⟨.recordTooDeep, '\x7b' :: rest⟩
    | levels + 1 =>
      match skipSpace rest with
      | '\x7d' :: rest => .ok (.record [], rest)
      | rest =>
        (readFields (readValue levels) (rest.length + 1) rest).map fun (fields, rest) =>
          (.record (distinct fields), rest)
  | _, '"' :: rest =>
    (readText ('"' :: rest) none rest).map fun (cs, rest) => (.text (.ofList cs), rest)
  | _, s => readScalar s

def readChars (s : List Char) : Except Fault Value :=
  match s with
  | '\uFEFF' :: _ => .error ⟨.byteOrderMark, s⟩
  | s => do
    let (v, rest) ← readValue Value.deepest (skipSpace s)
    match skipSpace rest with
    | [] => return v
    | rest => throw ⟨.extraData, rest⟩

structure Error where
  problem : Problem
  offset : Nat
  line : Nat
  column : Nat
  deriving DecidableEq, Repr

def Fault.locate (f : Fault) (whole : List Char) : Error :=
  let before := whole.take (whole.length - f.rest.length)
  { problem := f.problem
    offset := before.length
    line := before.count '\n' + 1
    column := (before.reverse.takeWhile (· != '\n')).length + 1 }

/-- What is too large is reported without its place. -/
def Error.message (e : Error) : String :=
  if e.problem.isLimit then e.problem.message
  else
    e.problem.message ++ ": line " ++ Numeral.text e.line ++ " column " ++ Numeral.text e.column ++
      " (char " ++ Numeral.text e.offset ++ ")"

def read (s : String) : Except Error Value :=
  (readChars s.toList).mapError (·.locate s.toList)

end CloneScan.Json
