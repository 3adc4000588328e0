import CloneScan.Calendar

/-! Dates and times of a TOML document. A date may be followed by a time, and that by its distance
from universal time; a time may also stand alone. What is in no calendar and on no clock is not
read. -/
namespace CloneScan.Toml

def digitRow? (count : Nat) (s : List Char) : Option (Nat × List Char) :=
  let ds := s.take count
  if ds.length = count ∧ ds.all Char.isDigit then some (Numeral.value ds, s.drop count) else none

def past? (c : Char) : List Char → Option (List Char)
  | d :: rest => if d = c then some rest else none
  | [] => none

def readDate (s : List Char) : Option (Date × List Char) := do
  let (year, rest) ← digitRow? 4 s
  let (month, rest) ← digitRow? 2 (← past? '-' rest)
  let (day, rest) ← digitRow? 2 (← past? '-' rest)
  return (← (Date.ofParts year month day).toOption, rest)

/-- The part of a second after a point; digits after the sixth do not count. -/
def readMicrosecond : List Char → Nat × List Char
  | '.' :: rest =>
    match rest.takeWhile Char.isDigit with
    | [] => (0, '.' :: rest)
    | ds => (Numeral.value ((ds ++ List.replicate 6 '0').take 6), rest.dropWhile Char.isDigit)
  | s => (0, s)

def readHourMinute (s : List Char) : Option ((Nat × Nat) × List Char) := do
  let (hour, rest) ← digitRow? 2 s
  let (minute, rest) ← digitRow? 2 (← past? ':' rest)
  return ((hour, minute), rest)

def readClock (s : List Char) : Option (Clock × List Char) := do
  let ((hour, minute), rest) ← readHourMinute s
  let (second, rest) ← digitRow? 2 (← past? ':' rest)
  let (microsecond, rest) := readMicrosecond rest
  return (← (Clock.ofParts hour minute second microsecond).toOption, rest)

/-- Minutes ahead of universal time, of which there are less than a day. -/
def readOffset : List Char → Option (Int × List Char)
  | c :: rest =>
    if c = 'Z' ∨ c = 'z' then some (0, rest)
    else if c = '+' ∨ c = '-' then do
      let ((hour, minute), rest) ← readHourMinute rest
      let _ ← (Clock.ofParts hour minute 0 0).toOption
      let offset : Int := 60 * hour + minute
      return (if c = '-' then -offset else offset, rest)
    else none
  | [] => none

def readClockAfterDate : List Char → Option (Clock × List Char)
  | c :: rest => if c = 'T' ∨ c = 't' ∨ c = ' ' then readClock rest else none
  | [] => none

def readMoment (s : List Char) : Option (Moment × List Char) :=
  match readDate s with
  | none => (readClock s).map fun (clock, rest) => (.clock clock, rest)
  | some (date, rest) =>
    match readClockAfterDate rest with
    | none => some (.date date, rest)
    | some (clock, rest) =>
      match readOffset rest with
      | none => some (.floating ⟨date, clock⟩, rest)
      | some (offset, rest) => some (.zoned ⟨date, clock⟩ offset, rest)

end CloneScan.Toml
