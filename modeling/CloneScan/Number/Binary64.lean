import CloneScan.Number.Rounding

/-! Binary floating-point numbers of double width, held exactly: a finite one is a significand
times a power of two. All arithmetic is on whole numbers, so a value is rounded only where a
definition says so. -/
namespace CloneScan

inductive Binary64 where
  /-- The value is `significand * 2 ^ exponent`. -/
  | finite (negative : Bool) (significand : Nat) (exponent : Int)
  | infinite (negative : Bool)
  | undefined
  deriving DecidableEq, Repr

namespace Binary64

open Number

/-- The exponent below which no place is kept. -/
def leastExponent : Int := -1074
def greatestExponent : Int := 971

def zero (negative : Bool) : Binary64 := finite negative 0 leastExponent

def inUnits (num den : Nat) (exponent : Int) : Nat × Nat :=
  if 0 ≤ exponent then (num, den * Nat.pow 2 exponent.toNat)
  else (num * Nat.pow 2 (-exponent).toNat, den)

/-- The exponent that gives `num / den` a significand of 53 bits, where there is room. -/
def exponentFor (num den : Nat) : Int :=
  let guess : Int := (num.log2 : Int) - den.log2 - 52
  let (n, d) := inUnits num den guess
  max (if n < d * Nat.pow 2 52 then guess - 1 else guess) leastExponent

/-- The number nearest to `num / den`; a half goes to the even significand. -/
def ofRatio (negative : Bool) (num den : Nat) : Binary64 :=
  if num = 0 then zero negative
  else
    let exponent := exponentFor num den
    let (n, d) := inUnits num den exponent
    let m := roundDiv n d
    let (m, exponent) := if m = Nat.pow 2 53 then (Nat.pow 2 52, exponent + 1) else (m, exponent)
    if greatestExponent < exponent then infinite negative else finite negative m exponent

/-- The number nearest to `digits * 10 ^ power`. Powers far outside the range are settled by
size alone. -/
def ofDecimal (negative : Bool) (digits : Nat) (power : Int) : Binary64 :=
  if digits = 0 then zero negative
  else if 310 < (digits.log2 * 3 / 10 : Nat) + power then infinite negative
  else if ((digits.log2 + 1) / 3 + 1 : Nat) + power < -330 then zero negative
  else if 0 ≤ power then ofRatio negative (digits * Nat.pow 10 power.toNat) 1
  else ofRatio negative digits (Nat.pow 10 (-power).toNat)

def ratio : Binary64 → Nat × Nat
  | finite _ m exponent =>
    if 0 ≤ exponent then (m * Nat.pow 2 exponent.toNat, 1) else (m, Nat.pow 2 (-exponent).toNat)
  | _ => (0, 1)

def isNegative : Binary64 → Bool
  | finite negative _ _ | infinite negative => negative
  | undefined => false

def isZero : Binary64 → Bool
  | finite _ m _ => m == 0
  | _ => false

def isFinite : Binary64 → Bool
  | finite _ _ _ => true
  | _ => false

/-- The whole number towards zero; there is none for the special values, which give zero. -/
def truncate (x : Binary64) : Int :=
  let (num, den) := x.ratio
  if x.isNegative then -(num / den : Nat) else (num / den : Nat)

def tenths (x : Binary64) : Nat :=
  let (num, den) := x.ratio
  roundDiv (num * 10) den

/-- The nearest number to the nearest multiple of one tenth. -/
def roundToTenth : Binary64 → Binary64
  | finite negative m exponent =>
    ofRatio negative (tenths (finite negative m exponent)) 10
  | x => x

end CloneScan.Binary64
