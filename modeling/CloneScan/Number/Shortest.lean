import CloneScan.Number.Binary64
import CloneScan.Text.Numeral

/-! The decimal text of a binary number: the fewest digits that read back, and of those the
nearest. `Notation.text` then places the point or an exponent. -/
namespace CloneScan.Binary64

/-- The value is `digits * 10 ^ power`. -/
structure Decimal where
  digits : Nat
  power : Int
  deriving DecidableEq, Repr

/-- The numbers that round to a given one: all three are over one denominator, and the ends
count when the significand is even. -/
structure Basin where
  low : Nat
  value : Nat
  high : Nat
  den : Nat
  closed : Bool

/-- Half a unit on each side, a quarter below a power of two, where the spacing changes. -/
def basin (m : Nat) (exponent : Int) : Basin :=
  let below := if m = Nat.pow 2 52 ∧ leastExponent < exponent then 1 else 2
  let scale := exponent - 2
  let unit := if 0 ≤ scale then Nat.pow 2 scale.toNat else 1
  { low := (4 * m - below) * unit
    value := 4 * m * unit
    high := (4 * m + 2) * unit
    den := if 0 ≤ scale then 1 else Nat.pow 2 (-scale).toNat
    closed := m % 2 == 0 }

/-- Both sides of a comparison of `digits * 10 ^ power` with `n / den`. -/
def sides (den digits : Nat) (power : Int) (n : Nat) : Nat × Nat :=
  if 0 ≤ power then (digits * Nat.pow 10 power.toNat * den, n)
  else (digits * den, n * Nat.pow 10 (-power).toNat)

def Basin.contains (b : Basin) (d : Decimal) : Bool :=
  let (a, low) := sides b.den d.digits d.power b.low
  let (c, high) := sides b.den d.digits d.power b.high
  if b.closed then low ≤ a && c ≤ high else low < a && c < high

/-- Place of the leading digit: the largest `k` with `10 ^ k ≤ value`. -/
def Basin.leadingPlace (b : Basin) : Int :=
  let guess : Int := ((Numeral.ofNat b.value).length : Int) - (Numeral.ofNat b.den).length
  let (a, v) := sides b.den 1 guess b.value
  if a ≤ v then guess else guess - 1

/-- The neighbour with the given number of digits that lies in the basin; of two, the nearer,
and on a tie the even one. -/
def Basin.neighbour? (b : Basin) (leading : Int) (count : Nat) : Option Decimal :=
  let power := leading - count + 1
  let (one, v) := sides b.den 1 power b.value
  let floor : Decimal := ⟨v / one, power⟩
  let ceiling : Decimal :=
    if v / one + 1 = Nat.pow 10 count then ⟨Nat.pow 10 (count - 1), power + 1⟩
    else ⟨v / one + 1, power⟩
  let rest := v % one
  let upper := one < 2 * rest || (one == 2 * rest && v / one % 2 == 1)
  match b.contains floor, b.contains ceiling with
  | true, true => some (if upper then ceiling else floor)
  | true, false => some floor
  | false, true => some ceiling
  | false, false => none

/-- Seventeen digits always suffice. -/
def shortest (m : Nat) (exponent : Int) : Decimal :=
  let b := basin m exponent
  let leading := b.leadingPlace
  ((List.range' 1 17).findSome? (b.neighbour? leading)).getD ⟨0, 0⟩

structure Notation where
  /-- Positional from this position of the point on. -/
  leastPoint : Int
  /-- Positional up to this position of the point. -/
  greatestPoint : Int
  infinity : String
  undefined : String

/-- Positional from a ten-thousandth up to sixteen digits before the point. -/
def plain : Notation := ⟨-3, 16, "inf", "nan"⟩

def positional (ds : List Char) (point : Int) : List Char :=
  if point ≤ 0 then ['0', '.'] ++ List.replicate (-point).toNat '0' ++ ds
  else
    let whole := ds.take point.toNat ++ List.replicate (point.toNat - ds.length) '0'
    let rest := ds.drop point.toNat
    whole ++ ['.'] ++ if rest.isEmpty then ['0'] else rest

def scientific (ds : List Char) (point : Int) : List Char :=
  let exponent := point - 1
  ds.take 1 ++ (if ds.length ≤ 1 then [] else '.' :: ds.drop 1) ++
    ['e', if exponent < 0 then '-' else '+'] ++ Numeral.padded 2 exponent.natAbs

def magnitude (how : Notation) (m : Nat) (exponent : Int) : List Char :=
  if m = 0 then ['0', '.', '0']
  else
    let d := shortest m exponent
    let ds := Numeral.ofNat d.digits
    let point := ds.length + d.power
    if how.leastPoint ≤ point ∧ point ≤ how.greatestPoint then positional ds point
    else scientific ds point

def chars (how : Notation) (x : Binary64) : List Char :=
  let sign := if x.isNegative then ['-'] else []
  match x with
  | finite _ m exponent => sign ++ magnitude how m exponent
  | infinite _ => sign ++ how.infinity.toList
  | .undefined => how.undefined.toList

def text (x : Binary64) : String := .ofList (chars plain x)

def onePlace (x : Binary64) : String :=
  match x with
  | finite negative _ _ =>
    .ofList ((if negative then ['-'] else []) ++ Numeral.ofNat (x.tenths / 10) ++
      ['.', Numeral.digit (x.tenths % 10)])
  | _ => x.text

end CloneScan.Binary64
