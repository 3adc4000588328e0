import CloneScan.Text.Numeral

/-! Days of the calendar, times of day, and moments made of them. A day that is not in the
calendar, or a time that no clock shows, cannot be built. Each of them has a text of its own and a
literal, which names its parts. -/
namespace CloneScan

namespace Calendar

inductive Fault where
  | year (got : Int)
  | month
  | day
  | hour
  | minute
  | second
  | microsecond
  deriving DecidableEq, Repr

def Fault.message : Fault → String
  | year got => "year " ++ Numeral.text got ++ " is out of range"
  | month => "month must be in 1..12"
  | day => "day is out of range for month"
  | hour => "hour must be in 0..23"
  | minute => "minute must be in 0..59"
  | second => "second must be in 0..59"
  | microsecond => "microsecond must be in 0..999999"

def isLeapYear (year : Nat) : Bool := year % 4 == 0 && (year % 100 != 0 || year % 400 == 0)

def daysInMonth (year month : Nat) : Nat :=
  if month = 2 then if isLeapYear year then 29 else 28
  else if month = 4 ∨ month = 6 ∨ month = 9 ∨ month = 11 then 30
  else 31

def digits (width n : Nat) : String := .ofList (Numeral.padded width n)

def call (name : String) (arguments : List String) : String :=
  name ++ "(" ++ ", ".intercalate arguments ++ ")"

end Calendar

open Calendar

structure Date where
  year : Nat
  month : Nat
  day : Nat
  year_mem : 1 ≤ year ∧ year ≤ 9999
  month_mem : 1 ≤ month ∧ month ≤ 12
  day_mem : 1 ≤ day ∧ day ≤ daysInMonth year month
  deriving DecidableEq, Repr

namespace Date

/-- The first part that does not fit is the one at fault. -/
def ofParts (year month day : Int) : Except Fault Date :=
  if year_mem : 1 ≤ year.toNat ∧ year.toNat ≤ 9999 then
    if month_mem : 1 ≤ month.toNat ∧ month.toNat ≤ 12 then
      if day_mem : 1 ≤ day.toNat ∧ day.toNat ≤ daysInMonth year.toNat month.toNat then
        .ok { year := year.toNat, month := month.toNat, day := day.toNat
              year_mem, month_mem, day_mem }
      else .error .day
    else .error .month
  else .error (.year year)

def text (d : Date) : String :=
  digits 4 d.year ++ "-" ++ digits 2 d.month ++ "-" ++ digits 2 d.day

def parts (d : Date) : List Nat := [d.year, d.month, d.day]

end Date

structure Clock where
  hour : Nat
  minute : Nat
  second : Nat
  microsecond : Nat
  hour_lt : hour < 24
  minute_lt : minute < 60
  second_lt : second < 60
  microsecond_lt : microsecond < 1000000
  deriving DecidableEq, Repr

namespace Clock

def ofParts (hour minute second microsecond : Int) : Except Fault Clock :=
  if hour_lt : 0 ≤ hour ∧ hour.toNat < 24 then
    if minute_lt : 0 ≤ minute ∧ minute.toNat < 60 then
      if second_lt : 0 ≤ second ∧ second.toNat < 60 then
        if microsecond_lt : 0 ≤ microsecond ∧ microsecond.toNat < 1000000 then
          .ok { hour := hour.toNat, minute := minute.toNat, second := second.toNat
                microsecond := microsecond.toNat
                hour_lt := hour_lt.2, minute_lt := minute_lt.2, second_lt := second_lt.2
                microsecond_lt := microsecond_lt.2 }
        else .error .microsecond
      else .error .second
    else .error .minute
  else .error .hour

/-- Millionths of a second are shown only where there are some. -/
def text (c : Clock) : String :=
  digits 2 c.hour ++ ":" ++ digits 2 c.minute ++ ":" ++ digits 2 c.second ++
    if c.microsecond = 0 then "" else "." ++ digits 6 c.microsecond

def parts (c : Clock) : List Nat :=
  if c.microsecond ≠ 0 then [c.hour, c.minute, c.second, c.microsecond]
  else if c.second ≠ 0 then [c.hour, c.minute, c.second]
  else [c.hour, c.minute]

end Clock

structure Timestamp where
  date : Date
  clock : Clock
  deriving DecidableEq, Repr

namespace Timestamp

def ofParts (year month day hour minute second microsecond : Int) : Except Fault Timestamp := do
  let date ← Date.ofParts year month day
  let clock ← Clock.ofParts hour minute second microsecond
  return ⟨date, clock⟩

def textWith (separator : String) (t : Timestamp) : String :=
  t.date.text ++ separator ++ t.clock.text

def text (t : Timestamp) : String := t.textWith "T"

def parts (t : Timestamp) : List Nat := t.date.parts ++ t.clock.parts

end Timestamp

/-- A day, a time of day, or both, with minutes ahead of universal time where they are known. -/
inductive Moment where
  | date (d : Date)
  | clock (c : Clock)
  | floating (t : Timestamp)
  | zoned (t : Timestamp) (offset : Int)
  deriving DecidableEq, Repr

namespace Moment

def typeName : Moment → String
  | date _ => "datetime.date"
  | clock _ => "datetime.time"
  | floating _ | zoned _ _ => "datetime.datetime"

def offsetText (offset : Int) : String :=
  (if offset < 0 then "-" else "+") ++ digits 2 (offset.natAbs / 60) ++ ":" ++
    digits 2 (offset.natAbs % 60)

def text : Moment → String
  | date d => d.text
  | clock c => c.text
  | floating t => t.textWith " "
  | zoned t offset => t.textWith " " ++ offsetText offset

/-- A zone behind universal time is a day back and some seconds ahead. -/
def zoneLiteral (offset : Int) : String :=
  if offset = 0 then "datetime.timezone.utc"
  else
    let days := if offset < 0 then ["days=-1"] else []
    let seconds := if offset < 0 then 86400 + 60 * offset else 60 * offset
    call "datetime.timezone"
      [call "datetime.timedelta" (days ++ ["seconds=" ++ Numeral.text seconds])]

def numerals (parts : List Nat) : List String := parts.map fun n : Nat => Numeral.text n

def literal (m : Moment) : String :=
  call m.typeName <|
    match m with
    | date d => numerals d.parts
    | clock c => numerals c.parts
    | floating t => numerals t.parts
    | zoned t offset => numerals t.parts ++ ["tzinfo=" ++ zoneLiteral offset]

end Moment

end CloneScan
