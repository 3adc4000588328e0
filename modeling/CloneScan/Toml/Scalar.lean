import CloneScan.Json.Reader
import CloneScan.Toml.Moment

/-! The simple parts of a TOML document: keys, texts, numbers, truth values, dates and times. A
reader returns what it read with the text after it, or nothing where the document is not valid. -/
namespace CloneScan.Toml

/-- Why a document is not read. -/
inductive Problem where
  /-- It breaks the rules of the format. -/
  | invalid
  | numeral (f : Numeral.Fault)
  | nestedTooDeep
  deriving DecidableEq, Repr

def Problem.message : Problem → String
  | invalid => "Invalid document"
  | numeral f => f.message
  | nestedTooDeep => "maximum recursion depth exceeded"

abbrev Step (α : Type) := Option (α × List Char)

def isSpace (c : Char) : Bool := c == ' ' || c == '\t'

def skipSpace (s : List Char) : List Char := s.dropWhile isSpace

/-- Control characters other than the tab stand nowhere but at line ends. -/
def isIllegal (c : Char) : Bool := (c.toNat < 32 && c != '\t') || c.toNat == 127

def isBareKey (c : Char) : Bool := c.isAlphanum || c == '-' || c == '_'

def prepend (cs : List Char) (step : Step (List Char)) : Step (List Char) :=
  step.map fun (more, rest) => (cs ++ more, rest)

def simpleEscape? : Char → Option Char
  | 'b' => some '\x08'
  | 't' => some '\t'
  | 'n' => some '\n'
  | 'f' => some '\x0c'
  | 'r' => some '\r'
  | '"' => some '"'
  | '\\' => some '\\'
  | _ => none

def hexNumber? (ds : List Char) : Option Nat :=
  ds.foldl (fun n c => do return 16 * (← n) + (← Json.hexValue? c)) (some 0)

def scalarChar? (ds : List Char) : Option Char := do
  let n ← hexNumber? ds
  if n < 0xD800 ∨ (0xDFFF < n ∧ n < 0x110000) then some (Char.ofNat n) else none

/-- What a backslash at the end of a line leaves out: first the rest of the line, which has to be
blank, then everything blank. -/
inductive Skipping where
  | nothing
  | restOfLine
  | blankLines
  deriving DecidableEq

/-- A text in double quotes after its opening. Over several lines it ends at three quotes. -/
def basicText (multiline : Bool) : Skipping → List Char → Step (List Char)
  | _, [] => none
  | skipping, c :: rest =>
    if skipping = .restOfLine then
      if isSpace c then basicText multiline .restOfLine rest
      else if c = '\n' then basicText multiline .blankLines rest
      else none
    else if skipping = .blankLines ∧ (isSpace c ∨ c = '\n') then
      basicText multiline .blankLines rest
    else if c = '"' then
      if multiline then
        match rest with
        | '"' :: '"' :: after => some ([], after)
        | _ => prepend [c] (basicText multiline .nothing rest)
      else some ([], rest)
    else if c = '\\' then
      match rest with
      | [] => none
      | e :: after =>
        if multiline ∧ isSpace e then basicText multiline .restOfLine after
        else if multiline ∧ e = '\n' then basicText multiline .blankLines after
        else if e = 'u' then
          match after with
          | a :: b :: c :: d :: more =>
            match scalarChar? [a, b, c, d] with
            | some x => prepend [x] (basicText multiline .nothing more)
            | none => none
          | _ => none
        else if e = 'U' then
          match after with
          | p :: q :: r :: s :: a :: b :: c :: d :: more =>
            match scalarChar? [p, q, r, s, a, b, c, d] with
            | some x => prepend [x] (basicText multiline .nothing more)
            | none => none
          | _ => none
        else
          match simpleEscape? e with
          | some x => prepend [x] (basicText multiline .nothing after)
          | none => none
    else if isIllegal c ∧ ¬(multiline ∧ c = '\n') then none
    else prepend [c] (basicText multiline .nothing rest)

def literalText (multiline : Bool) : List Char → Step (List Char)
  | [] => none
  | c :: rest =>
    if c = '\'' then
      if multiline then
        match rest with
        | '\'' :: '\'' :: after => some ([], after)
        | _ => prepend [c] (literalText multiline rest)
      else some ([], rest)
    else if isIllegal c ∧ ¬(multiline ∧ c = '\n') then none
    else prepend [c] (literalText multiline rest)

def skipFirstNewline : List Char → List Char
  | '\n' :: rest => rest
  | s => s

/-- Up to two quotes more may stand before the three that end a text. -/
def withFinalQuotes (quote : Char) : List Char × List Char → List Char × List Char
  | (cs, p :: q :: rest) =>
    if p = quote then
      if q = quote then (cs ++ [quote, quote], rest) else (cs ++ [quote], q :: rest)
    else (cs, p :: q :: rest)
  | (cs, [p]) => if p = quote then (cs ++ [quote], []) else (cs, [p])
  | (cs, []) => (cs, [])

def readText : List Char → Step (List Char)
  | '"' :: '"' :: '"' :: rest =>
    (basicText true .nothing (skipFirstNewline rest)).map (withFinalQuotes '"')
  | '"' :: rest => basicText false .nothing rest
  | '\'' :: '\'' :: '\'' :: rest =>
    (literalText true (skipFirstNewline rest)).map (withFinalQuotes '\'')
  | '\'' :: rest => literalText false rest
  | _ => none

def readKeyPart : List Char → Step String
  | '"' :: rest => (basicText false .nothing rest).map fun (cs, rest) => (.ofList cs, rest)
  | '\'' :: rest => (literalText false rest).map fun (cs, rest) => (.ofList cs, rest)
  | s =>
    match s.takeWhile isBareKey with
    | [] => none
    | cs => some (.ofList cs, s.dropWhile isBareKey)

def readKey : Nat → List Char → Option (List String × List Char)
  | 0, _ => none
  | fuel + 1, s => do
    let (part, rest) ← readKeyPart s
    match skipSpace rest with
    | '.' :: rest =>
      let (parts, rest) ← readKey fuel (skipSpace rest)
      return (part :: parts, rest)
    | rest => return ([part], rest)

/-- Digits with single underscores between them. -/
def digitRow (isDigit : Char → Bool) : List Char → List Char × List Char
  | '_' :: c :: rest =>
    if isDigit c then
      let (ds, rest) := digitRow isDigit rest
      (c :: ds, rest)
    else ([], '_' :: c :: rest)
  | c :: rest =>
    if isDigit c then
      let (ds, rest) := digitRow isDigit rest
      (c :: ds, rest)
    else ([], c :: rest)
  | [] => ([], [])

def digits? (isDigit : Char → Bool) : List Char → Step (List Char)
  | c :: rest =>
    if isDigit c then
      let (ds, rest) := digitRow isDigit rest
      some (c :: ds, rest)
    else none
  | [] => none

def isHexDigit (c : Char) : Bool := (Json.hexValue? c).isSome
def isOctalDigit (c : Char) : Bool := '0' ≤ c && c ≤ '7'
def isBinaryDigit (c : Char) : Bool := c == '0' || c == '1'

def inBase (base : Nat) (ds : List Char) : Int :=
  ds.foldl (fun n c => base * n + (((Json.hexValue? c).getD 0 : Nat) : Int)) 0

def readPrefixed : List Char → Step Value
  | '0' :: 'x' :: rest => (digits? isHexDigit rest).map fun (ds, r) => (.int (inBase 16 ds), r)
  | '0' :: 'b' :: rest => (digits? isBinaryDigit rest).map fun (ds, r) => (.int (inBase 2 ds), r)
  | '0' :: 'o' :: rest => (digits? isOctalDigit rest).map fun (ds, r) => (.int (inBase 8 ds), r)
  | _ => none

def readSign : List Char → Bool × List Char
  | '-' :: rest => (true, rest)
  | '+' :: rest => (false, rest)
  | s => (false, s)

/-- No zero stands in front of other digits. -/
def wholePart? : List Char → Step (List Char)
  | '0' :: rest => some (['0'], rest)
  | s => digits? Char.isDigit s

structure Decimal where
  negative : Bool
  whole : List Char
  places : List Char
  power : Option Int

/-- Only whole numbers can have too many digits. -/
def Decimal.value (d : Decimal) : Except Problem Value :=
  if d.places.isEmpty ∧ d.power.isNone then
    if Numeral.longest < d.whole.length then
      .error (.numeral (.tooLongToRead d.whole.length))
    else
      let n : Int := Numeral.value d.whole
      .ok (.int (if d.negative then -n else n))
  else
    .ok (.float (.ofDecimal d.negative (Numeral.value (d.whole ++ d.places))
      (d.power.getD 0 - d.places.length)))

def readPlaces : List Char → List Char × List Char
  | '.' :: rest => (digits? Char.isDigit rest).getD ([], '.' :: rest)
  | s => ([], s)

def readPower : List Char → Option Int × List Char
  | e :: rest =>
    if e = 'e' ∨ e = 'E' then
      let (negative, unsigned) := readSign rest
      match digits? Char.isDigit unsigned with
      | some (ds, after) =>
        let n : Int := Numeral.value ds
        (some (if negative then -n else n), after)
      | none => (none, e :: rest)
    else (none, e :: rest)
  | [] => (none, [])

def readDecimal (s : List Char) : Option (Decimal × List Char) := do
  let (negative, unsigned) := readSign s
  let (whole, rest) ← wholePart? unsigned
  let (places, rest) := readPlaces rest
  let (power, rest) := readPower rest
  return (⟨negative, whole, places, power⟩, rest)

def readSpecial (s : List Char) : Step Value :=
  let (negative, unsigned) := readSign s
  match unsigned with
  | 'i' :: 'n' :: 'f' :: rest => some (.float (.infinite negative), rest)
  | 'n' :: 'a' :: 'n' :: rest => some (.float .undefined, rest)
  | _ => none

def readTruth : List Char → Step Value
  | 't' :: 'r' :: 'u' :: 'e' :: rest => some (.bool true, rest)
  | 'f' :: 'a' :: 'l' :: 's' :: 'e' :: rest => some (.bool false, rest)
  | _ => none

def readWord (s : List Char) : Step Value :=
  readTruth s <|> (readMoment s).map (fun (m, rest) => (.moment m, rest)) <|> readPrefixed s

def orInvalid (x : Option α) : Except Problem α :=
  match x with
  | some a => .ok a
  | none => .error .invalid

def readScalar (s : List Char) : Except Problem (Value × List Char) :=
  match s with
  | '"' :: _ | '\'' :: _ =>
    orInvalid ((readText s).map fun (cs, rest) => (.text (.ofList cs), rest))
  | _ =>
    match readWord s with
    | some found => .ok found
    | none =>
      match readDecimal s with
      | some (d, rest) => d.value.map (·, rest)
      | none => orInvalid (readSpecial s)

end CloneScan.Toml
