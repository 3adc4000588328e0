import CloneScan.Toml.Scalar

/-! Values of a TOML document, and the tables they are put into. What was written as one value, and
what was opened under a header, cannot be extended from elsewhere: such names are marked. -/
namespace CloneScan.Toml

abbrev Fields := List (String × Value)

inductive Seal where
  /-- It was opened by a header, or by the dots of a key. -/
  | opened
  /-- It was written as a single value; nothing below it can change either. -/
  | frozen
  deriving DecidableEq

abbrev Seals := List (List String × Seal)

def Seals.isOpened (seals : Seals) (key : List String) : Bool := seals.contains (key, .opened)

def Seals.isFrozen (seals : Seals) (key : List String) : Bool :=
  seals.any fun (other, why) => why = .frozen ∧ other.isPrefixOf key

def Seals.release (seals : Seals) (key : List String) : Seals :=
  seals.filter fun (other, _) => !key.isPrefixOf other

/-- Changes the table behind a row of names. Missing tables are made; a list stands for its last
element where `lists` allows it. -/
def inTable (lists : Bool) (change : Fields → Option Fields) :
    List String → Fields → Option Fields
  | [], fields => change fields
  | name :: rest, fields =>
    match fields.lookup name with
    | none => (inTable lists change rest []).map fun inner => fields ++ [(name, .record inner)]
    | some (.record inner) =>
      (inTable lists change rest inner).map fun inner =>
        Value.insertField name (.record inner) fields
    | some (.list items) =>
      match lists, items.getLast? with
      | true, some (.record inner) =>
        (inTable lists change rest inner).map fun inner =>
          Value.insertField name (.list (items.dropLast ++ [.record inner])) fields
      | _, _ => none
    | some _ => none

def addField (name : String) (v : Value) (fields : Fields) : Option Fields :=
  if (fields.lookup name).isSome then none else some (fields ++ [(name, v)])

def addTable (name : String) (fields : Fields) : Option Fields :=
  match fields.lookup name with
  | none => some (fields ++ [(name, .list [.record []])])
  | some (.list items) => some (Value.insertField name (.list (items ++ [.record []])) fields)
  | some _ => none

def skipListSpace (inComment : Bool) : List Char → Option (List Char)
  | [] => some []
  | c :: rest =>
    if inComment then
      if c = '\n' then skipListSpace false rest
      else if isIllegal c then none
      else skipListSpace true rest
    else if isSpace c ∨ c = '\n' then skipListSpace false rest
    else if c = '#' then skipListSpace true rest
    else some (c :: rest)

def pastEquals? : List Char → Option (List Char)
  | '=' :: rest => some (skipSpace rest)
  | _ => none

def isContainer : Value → Bool
  | .list _ | .record _ => true
  | _ => false

/-- Elements up to and with the closing bracket; a comma may stand before it. `fuel` bounds their
number; one more than the length of the text is enough. -/
def readItems (read : List Char → Except Problem (Value × List Char)) :
    Nat → List Char → Except Problem (List Value × List Char)
  | 0, _ => .error .invalid
  | fuel + 1, s => do
    let (v, rest) ← read s
    match ← orInvalid (skipListSpace false rest) with
    | ']' :: rest => return ([v], rest)
    | ',' :: rest =>
      match ← orInvalid (skipListSpace false rest) with
      | ']' :: rest => return ([v], rest)
      | rest =>
        let (items, rest) ← readItems read fuel rest
        return (v :: items, rest)
    | _ => throw .invalid

def readFields (read : List Char → Except Problem (Value × List Char)) :
    Nat → Seals → Fields → List Char → Except Problem (Fields × List Char)
  | 0, _, _, _ => .error .invalid
  | fuel + 1, seals, fields, s => do
    let (key, rest) ← orInvalid (readKey (s.length + 1) s)
    let (v, rest) ← read (← orInvalid (pastEquals? rest))
    if seals.isFrozen key then throw .invalid
    let fields ← orInvalid (inTable false (addField (key.getLastD "") v) key.dropLast fields)
    match skipSpace rest with
    | '\x7d' :: rest => return (fields, rest)
    | ',' :: rest =>
      readFields read fuel (if isContainer v then (key, .frozen) :: seals else seals) fields
        (skipSpace rest)
    | _ => throw .invalid

/-- A value, for which some room is left. Of the room a list takes two and a table on one line
three, and both leave the rest to the values in them. -/
def readValue : Nat → List Char → Except Problem (Value × List Char)
  | room, '[' :: rest =>
    match room with
    | room + 2 => do
      match ← orInvalid (skipListSpace false rest) with
      | ']' :: rest => return (.list [], rest)
      | rest =>
        let (items, rest) ← readItems (readValue room) (rest.length + 1) rest
        return (.list items, rest)
    | _ => .error .nestedTooDeep
  | room, '\x7b' :: rest =>
    match room with
    | room + 3 =>
      match skipSpace rest with
      | '\x7d' :: rest => .ok (.record [], rest)
      | rest =>
        (readFields (readValue room) (rest.length + 1) [] [] rest).map fun (fields, rest) =>
          (.record fields, rest)
    | _ => .error .nestedTooDeep
  | _, s => readScalar s

structure Document where
  fields : Fields := []
  seals : Seals := []
  pending : Seals := []
  header : List String := []

namespace Document

def addLine (doc : Document) (key : List String) (v : Value) : Option Document := do
  let inner := (List.range key.length).drop 1 |>.map fun n => doc.header ++ key.take n
  if inner.any doc.seals.isOpened then none
  let table := doc.header ++ key.dropLast
  if doc.seals.isFrozen table then none
  let fields ← inTable true (addField (key.getLastD "") v) table doc.fields
  let pending := doc.pending ++ inner.map (·, .opened)
  let seals := if isContainer v then (doc.header ++ key, .frozen) :: doc.seals else doc.seals
  return { doc with fields, seals, pending }

def openTable (doc : Document) (key : List String) : Option Document := do
  let seals := doc.seals ++ doc.pending
  if Seals.isOpened seals key || Seals.isFrozen seals key then none
  let fields ← inTable true some key doc.fields
  return { fields, seals := (key, .opened) :: seals, pending := [], header := key }

def openElement (doc : Document) (key : List String) : Option Document := do
  let seals := doc.seals ++ doc.pending
  if Seals.isFrozen seals key then none
  let fields ← inTable true (addTable (key.getLastD "")) key.dropLast doc.fields
  return {
    fields
    seals := (key, .opened) :: Seals.release seals key
    pending := []
    header := key }

end Document

def endLine (s : List Char) : Option (List Char) :=
  match skipSpace s with
  | '#' :: rest =>
    let comment := rest.takeWhile (· != '\n')
    if comment.any isIllegal then none else some ((rest.dropWhile (· != '\n')).drop 1)
  | '\n' :: rest => some rest
  | [] => some []
  | _ => none

def readHeader (closing s : List Char) : Except Problem (List String × List Char) := do
  let (key, rest) ← orInvalid (readKey (s.length + 1) (skipSpace s))
  return (key, ← orInvalid (closing.isPrefixOf? rest))

def readStatement (doc : Document) (s : List Char) : Except Problem (Document × List Char) :=
  match s with
  | '[' :: '[' :: rest => do
    let (key, rest) ← readHeader [']', ']'] rest
    return (← orInvalid (doc.openElement key), rest)
  | '[' :: rest => do
    let (key, rest) ← readHeader [']'] rest
    return (← orInvalid (doc.openTable key), rest)
  | c :: rest =>
    if c = '\n' ∨ c = '#' then .ok (doc, s)
    else do
      let (key, rest) ← orInvalid (readKey (rest.length + 2) s)
      let (v, rest) ← readValue Value.deepest (← orInvalid (pastEquals? rest))
      return (← orInvalid (doc.addLine key v), rest)
  | [] => .ok (doc, [])

def readLines : Nat → Document → List Char → Except Problem Document
  | 0, _, _ => .error .invalid
  | fuel + 1, doc, s =>
    match skipSpace s with
    | [] => .ok doc
    | s => do
      let (doc, rest) ← readStatement doc s
      readLines fuel doc (← orInvalid (endLine rest))

def joinLineEnds : List Char → List Char
  | '\r' :: '\n' :: rest => '\n' :: joinLineEnds rest
  | c :: rest => c :: joinLineEnds rest
  | [] => []

def read (text : String) : Except Problem Fields :=
  let s := joinLineEnds text.toList
  (readLines (s.length + 1) {} s).map (·.fields)

end CloneScan.Toml
