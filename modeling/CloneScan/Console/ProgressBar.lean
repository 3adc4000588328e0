import CloneScan.Number.Binary64
import CloneScan.Text.Numeral

/-! The progress bar: a row of equal signs with an arrow head, redrawn on one line until all is
done. A bar is drawn unless one of its numbers is out of all proportion. -/
namespace CloneScan.Console

inductive Fault where
  /-- The filled part is beyond the largest number. -/
  | shareTooLarge
  /-- A row is longer than rows are counted. -/
  | rowTooLong
  /-- A row is longer than there is room for. -/
  | noRoom
  deriving DecidableEq, Repr

def Fault.message : Fault → String
  | shareTooLarge => "integer division result too large for a float"
  | rowTooLong => "cannot fit 'int' into an index-sized integer"
  | noRoom => ""

def barWidth : Int := 30

/-- Rows are counted below this number, in both directions. -/
def countBound : Int := 9223372036854775808

def roomBound : Int := 4294967296

/-- A row of one character; there is nothing in a row of negative length. -/
def repeated (n : Int) (c : Char) : Except Fault (List Char) :=
  if n < -countBound ∨ countBound ≤ n then .error .rowTooLong
  else if roomBound ≤ n then .error .noRoom
  else .ok (List.replicate n.toNat c)

/-- Columns that are filled: the share of the width as a binary number, cut to a whole one. -/
def filled (current total width : Int) : Except Fault Int :=
  let share := width * current
  let x := Binary64.ofRatio (decide (share < 0)) share.natAbs (max total 1).toNat
  if x.isFinite then .ok x.truncate else .error .shareTooLarge

def bar (current total width : Int) : Except Fault (List Char) := do
  let n ← filled current total width
  if n < width then return (← repeated n '=') ++ ['>'] ++ (← repeated (width - n - 1) ' ')
  else repeated width '='

def progressLine (current total : Int) (message : String) (width : Int) : Except Fault String := do
  return "\r   [" ++ .ofList (← bar current total width) ++ "] " ++ Numeral.text current ++ "/" ++
    Numeral.text total ++ " " ++ message ++ "\x1b[K"

end CloneScan.Console
