import CloneScan.Proofs.Json.Scalar
import CloneScan.Proofs.Number.Shortest
import CloneScan.Report

/-! Binary numbers, written and read back. Each way of writing a number is taken apart into the digits
before the point, the digits after it and the power of ten, whose decimal is the one that was written;
and that decimal rounds to the number. -/
namespace CloneScan

namespace Numeral

def Digits (ds : List Char) : Prop := ∀ c ∈ ds, c.isDigit = true

theorem digits_ofNat (n : Nat) : Digits (ofNat n) := fun _ => isDigit_of_mem_ofNat

theorem digits_zeros (n : Nat) : Digits (List.replicate n '0') := by
  intro c member
  rw [List.eq_of_mem_replicate member]
  rfl

theorem Digits.append {front back : List Char} (first : Digits front) (second : Digits back) :
    Digits (front ++ back) := by
  intro c member
  rcases List.mem_append.mp member with left | right
  · exact first c left
  · exact second c right

theorem foldl_digits (ds : List Char) (n : Nat) :
    ds.foldl (fun n c => 10 * n + (c.toNat - 48)) n = n * 10 ^ ds.length + value ds := by
  induction ds generalizing n with
  | nil => simp [value]
  | cons c ds ih =>
    rw [value, List.foldl_cons, List.foldl_cons, ih, ih, List.length_cons, pow_succ]
    ring

theorem value_append_digits (front back : List Char) :
    value (front ++ back) = value front * 10 ^ back.length + value back := by
  rw [value, List.foldl_append, foldl_digits]
  rfl

theorem value_zeros (n : Nat) : value (List.replicate n '0') = 0 := by
  induction n with
  | zero => rfl
  | succ n ih => rw [List.replicate_succ', value_append, ih]; rfl

end Numeral

namespace Json

open Numeral (Digits)

/-! ## Parts of a number -/

def Halts (s : List Char) : Prop := ∀ c ∈ s.head?, c.isDigit = false

theorem takeWhile_halts {ds tail : List Char} (digits : Digits ds) (halts : Halts tail) :
    (ds ++ tail).takeWhile Char.isDigit = ds ∧ (ds ++ tail).dropWhile Char.isDigit = tail := by
  have stop : tail.takeWhile Char.isDigit = [] ∧ tail.dropWhile Char.isDigit = tail := by
    cases tail with
    | nil => exact ⟨rfl, rfl⟩
    | cons c tail =>
      have other := halts c rfl
      simp [other]
  constructor
  · rw [List.takeWhile_append_of_pos digits, stop.1, List.append_nil]
  · rw [List.dropWhile_append_of_pos digits, stop.2]

/-- The digits before the point of a number: a zero alone, or digits of which the first is no zero. -/
structure Whole (ds : List Char) : Prop where
  digits : Digits ds
  filled : ds ≠ []
  leading : ds.head? ≠ some '0' ∨ ds = ['0']

theorem wholePart?_whole {ds tail : List Char} (whole : Whole ds) (halts : Halts tail) :
    wholePart? (ds ++ tail) = some (ds, tail) := by
  obtain ⟨taken, dropped⟩ := takeWhile_halts whole.digits halts
  rcases whole.leading with nonzero | rfl
  · have other : (ds ++ tail).head? ≠ some '0' := by
      rwa [List.head?_append_of_ne_nil _ whole.filled]
    rw [wholePart?_nonzero other, taken, dropped, if_neg whole.filled]
  · rfl

theorem fraction_places {places tail : List Char} (digits : Digits places) (filled : places ≠ [])
    (halts : Halts tail) : fraction ('.' :: (places ++ tail)) = (places, tail) := by
  obtain ⟨taken, dropped⟩ := takeWhile_halts digits halts
  rw [fraction, taken, dropped]
  cases places with
  | nil => exact absurd rfl filled
  | cons c places => rfl

/-- A power of ten is written with its sign and two digits at least. -/
theorem exponent?_written (power : Int) :
    exponent? ('e' :: (if power < 0 then '-' else '+') :: Numeral.padded 2 power.natAbs) =
      (some power, []) := by
  have digits : Digits (Numeral.padded 2 power.natAbs) :=
    (Numeral.digits_zeros _).append (Numeral.digits_ofNat _)
  have filled : Numeral.padded 2 power.natAbs ≠ [] := by
    simp [Numeral.padded, Numeral.ofNat_ne_nil]
  have worth : Numeral.value (Numeral.padded 2 power.natAbs) = power.natAbs := by
    rw [Numeral.padded, Numeral.value_append_digits, Numeral.value_zeros, Numeral.value_ofNat]
    omega
  have taken := List.takeWhile_eq_self_iff.mpr digits
  have dropped := List.dropWhile_eq_nil_iff.mpr digits
  generalize Numeral.padded 2 power.natAbs = ds at *
  obtain ⟨c, more, rfl⟩ := List.exists_cons_of_ne_nil filled
  by_cases negative : power < 0
  · simp [exponent?, negative, powerSign, taken, dropped, worth, abs_of_neg negative]
  · simp [exponent?, negative, powerSign, taken, dropped, worth, abs_of_nonneg (not_lt.mp negative)]

theorem halts_nil : Halts [] := fun _ member => by cases member

theorem halts_cons {c : Char} (other : c.isDigit = false) (tail : List Char) : Halts (c :: tail) := by
  rintro _ ⟨⟩
  exact other

theorem readUnsigned_places (negative : Bool) {whole places : List Char} (first : Whole whole)
    (digits : Digits places) (filled : places ≠ []) :
    readUnsigned negative (whole ++ '.' :: places) =
      .ok (.float (.ofDecimal negative (Numeral.value (whole ++ places)) (-places.length)), []) := by
  have fractional := fraction_places digits filled halts_nil
  rw [List.append_nil] at fractional
  have halts : Halts ('.' :: places) := halts_cons (by decide) places
  rw [readUnsigned, wholePart?_whole first halts]
  simp [fractional, exponent?, numberValue, filled]

theorem readUnsigned_power (negative : Bool) {whole places : List Char} (first : Whole whole)
    (digits : Digits places) (power : Int) :
    readUnsigned negative (whole ++ (if places = [] then [] else '.' :: places) ++
        'e' :: (if power < 0 then '-' else '+') :: Numeral.padded 2 power.natAbs) =
      .ok (.float (.ofDecimal negative (Numeral.value (whole ++ places)) (power - places.length)),
        []) := by
  have written := exponent?_written power
  generalize tailed : (if power < 0 then '-' else '+') :: Numeral.padded 2 power.natAbs = tail
  rw [tailed] at written
  have halts : Halts ('e' :: tail) := halts_cons (by decide) tail
  by_cases filled : places = []
  · have fractional : fraction ('e' :: tail) = ([], 'e' :: tail) := fraction_pointless (by simp)
    rw [if_pos filled, List.append_nil, readUnsigned, wholePart?_whole first halts]
    simp [filled, fractional, written, numberValue]
  · have fractional := fraction_places digits filled halts
    have point : Halts ('.' :: (places ++ 'e' :: tail)) := halts_cons (by decide) _
    rw [if_neg filled, List.append_assoc, List.cons_append, readUnsigned, wholePart?_whole first point]
    simp [fractional, written, numberValue]

/-! ## Decimals -/

/-- A text that is read as a decimal worth as much as the one given. -/
def ReadsDecimal (s : List Char) (d : Binary64.Decimal) : Prop :=
  ∀ negative, ∃ read : Binary64.Decimal, read.worth = d.worth ∧
    readUnsigned negative s = .ok (.float (.ofDecimal negative read.digits read.power), [])

theorem whole_ofNat {n : Nat} (positive : 0 < n) : Whole (Numeral.ofNat n) where
  digits := Numeral.digits_ofNat n
  filled := Numeral.ofNat_ne_nil n
  leading := .inl (Numeral.head?_ofNat positive)

/-- Zeros in front of the digits make the power as small as it is. -/
theorem readsDecimal_below_one {ds : List Char} {d : Binary64.Decimal} {zeros : Nat}
    (digits : Digits ds) (filled : ds ≠ []) (value : Numeral.value ds = d.digits)
    (power : d.power = -(zeros + ds.length)) :
    ReadsDecimal (['0', '.'] ++ List.replicate zeros '0' ++ ds) d := by
  intro negative
  have places : Digits (List.replicate zeros '0' ++ ds) := (Numeral.digits_zeros _).append digits
  have zero : Whole ['0'] := ⟨Numeral.digits_zeros 1, by decide, .inr rfl⟩
  have read := readUnsigned_places negative zero places (by simp [filled])
  have whole : Numeral.value (['0'] ++ (List.replicate zeros '0' ++ ds)) = d.digits := by
    rw [Numeral.value_append_digits, Numeral.value_append_digits, Numeral.value_zeros, value]
    simp [Numeral.value]
  have small : -((List.replicate zeros '0' ++ ds).length : Int) = d.power := by
    rw [List.length_append, List.length_replicate, power]
    push_cast
    ring
  rw [whole, small] at read
  exact ⟨d, rfl, read⟩

/-- Zeros after the digits, and one after the point, make the number as large as it is. -/
theorem readsDecimal_whole {ds : List Char} {d : Binary64.Decimal} {zeros : Nat} (whole : Whole ds)
    (nonzero : ds.head? ≠ some '0') (value : Numeral.value ds = d.digits) (power : d.power = zeros) :
    ReadsDecimal (ds ++ List.replicate zeros '0' ++ ['.'] ++ ['0']) d := by
  intro negative
  have first : Whole (ds ++ List.replicate zeros '0') := by
    refine ⟨whole.digits.append (Numeral.digits_zeros _), by simp [whole.filled], .inl ?_⟩
    rwa [List.head?_append_of_ne_nil _ whole.filled]
  have read := readUnsigned_places negative first (Numeral.digits_zeros 1) (by decide)
  have digits : Numeral.value (ds ++ List.replicate zeros '0' ++ List.replicate 1 '0') =
      d.digits * 10 ^ (zeros + 1) := by
    rw [List.append_assoc, List.replicate_append_replicate, Numeral.value_append_digits,
      Numeral.value_zeros, List.length_replicate, value, Nat.add_zero]
  rw [digits] at read
  refine ⟨⟨d.digits * 10 ^ (zeros + 1), -1⟩, ?_, by simpa using read⟩
  rw [Binary64.Decimal.worth, Binary64.Decimal.worth, power, zpow_natCast]
  push_cast
  rw [pow_succ, zpow_neg, zpow_one]
  field_simp

/-- A point between two digits makes the power as small as it is. -/
theorem readsDecimal_between {ds : List Char} {d : Binary64.Decimal} {point : Nat} (whole : Whole ds)
    (nonzero : ds.head? ≠ some '0') (value : Numeral.value ds = d.digits)
    (after : 0 < point) (before : point < ds.length) (power : d.power = point - ds.length) :
    ReadsDecimal (ds.take point ++ ['.'] ++ ds.drop point) d := by
  intro negative
  have first : Whole (ds.take point) := by
    refine ⟨fun c member => whole.digits c (List.mem_of_mem_take member), ?_, .inl ?_⟩
    · simp [whole.filled, after.ne']
    · rwa [List.head?_take, if_neg after.ne']
  have places : Digits (ds.drop point) := fun c member =>
    whole.digits c (List.mem_of_mem_drop member)
  have read := readUnsigned_places negative first places (by simp [before])
  have small : -((ds.drop point).length : Int) = d.power := by
    rw [List.length_drop, power]
    omega
  rw [List.take_append_drop, value, small] at read
  exact ⟨d, rfl, by simpa using read⟩

theorem readsDecimal_positional {d : Binary64.Decimal} (positive : 0 < d.digits) :
    ReadsDecimal (Binary64.positional (Numeral.ofNat d.digits)
      ((Numeral.ofNat d.digits).length + d.power)) d := by
  have whole := whole_ofNat positive
  have nonzero := Numeral.head?_ofNat positive
  have value := Numeral.value_ofNat d.digits
  generalize Numeral.ofNat d.digits = ds at whole nonzero value ⊢
  unfold Binary64.positional
  by_cases small : ds.length + d.power ≤ 0
  · rw [if_pos small]
    exact readsDecimal_below_one whole.digits whole.filled value (by omega)
  · rw [if_neg small]
    obtain ⟨point, placed⟩ := Int.eq_ofNat_of_zero_le (not_le.mp small).le
    rw [placed, Int.toNat_natCast]
    dsimp only
    rcases lt_or_ge point ds.length with inside | beyond
    · have open_ : (ds.drop point).isEmpty = false := by simp [inside]
      rw [open_, Nat.sub_eq_zero_of_le inside.le, List.replicate_zero, List.append_nil]
      exact readsDecimal_between whole nonzero value (by omega) inside (by omega)
    · rw [List.take_of_length_le beyond, List.drop_of_length_le beyond]
      exact readsDecimal_whole whole nonzero value (by omega)

/-- One digit stands before the point, if there is a point at all. -/
theorem readsDecimal_scientific {d : Binary64.Decimal} (positive : 0 < d.digits) :
    ReadsDecimal (Binary64.scientific (Numeral.ofNat d.digits)
      ((Numeral.ofNat d.digits).length + d.power)) d := by
  intro negative
  have whole := whole_ofNat positive
  have nonzero := Numeral.head?_ofNat positive
  have value := Numeral.value_ofNat d.digits
  generalize Numeral.ofNat d.digits = ds at whole nonzero value ⊢
  obtain ⟨c, places, rfl⟩ := List.exists_cons_of_ne_nil whole.filled
  have first : Whole [c] :=
    ⟨fun _ member => whole.digits _ (List.mem_singleton.mp member ▸ .head _), by simp, .inl nonzero⟩
  have digits : Digits places := fun _ member => whole.digits _ (.tail _ member)
  have read := readUnsigned_power negative first digits ((c :: places).length + d.power - 1)
  have power : ((c :: places).length + d.power - 1 - places.length : Int) = d.power := by
    rw [List.length_cons]
    push_cast
    ring
  have spelled : Binary64.scientific (c :: places) ((c :: places).length + d.power) =
      [c] ++ (if places = [] then [] else '.' :: places) ++
        'e' :: (if (c :: places).length + d.power - 1 < 0 then '-' else '+') ::
          Numeral.padded 2 ((c :: places).length + d.power - 1).natAbs := by
    cases places <;> simp [Binary64.scientific]
  rw [power, ← spelled, List.singleton_append, value] at read
  exact ⟨d, rfl, read⟩

/-- Wherever the point is put, the shortest decimal of a number is read. -/
theorem readsDecimal_magnitude (how : Binary64.Notation) {m : Nat} {exponent : Int}
    (short : m < Nat.pow 2 53) (filled : 0 < m) :
    ReadsDecimal (Binary64.magnitude how m exponent) (Binary64.shortest m exponent) := by
  obtain ⟨positive, _⟩ := @Binary64.shortest_near m exponent short filled
  rw [Binary64.magnitude, if_neg filled.ne']
  dsimp only
  split
  · exact readsDecimal_positional positive
  · exact readsDecimal_scientific positive

/-! ## Numbers -/

/-- The text of a number's absolute value is read as the number. -/
theorem readUnsigned_magnitude (how : Binary64.Notation) (negative : Bool) {m : Nat} {exponent : Int}
    (canonical : Binary64.Canonical m exponent) :
    readUnsigned negative (Binary64.magnitude how m exponent) =
      .ok (.float (.finite negative m exponent), []) := by
  rcases Nat.eq_zero_or_pos m with rfl | filled
  · obtain rfl := canonical.full.resolve_left (by decide)
    rw [Binary64.magnitude, if_pos rfl]
    cases negative <;> rfl
  · obtain ⟨d, same, read⟩ := readsDecimal_magnitude how canonical.short filled negative
    obtain ⟨_, near⟩ := @Binary64.shortest_near m exponent canonical.short filled
    rw [← same] at near
    rw [read, Binary64.ofDecimal_near canonical filled (near.digits_pos filled) near]

/-- Whatever is read as a number starts with a digit. -/
theorem isDigit_of_readUnsigned {negative : Bool} {s rest : List Char} {v : Value}
    (read : readUnsigned negative s = .ok (v, rest)) : ∃ c more, s = c :: more ∧ c.isDigit = true := by
  cases s with
  | nil => cases read
  | cons c more =>
    refine ⟨c, more, rfl, ?_⟩
    by_contra other
    have nonzero : (c :: more).head? ≠ some '0' := by
      rintro ⟨⟩
      exact other (by decide)
    have nothing : (c :: more).takeWhile Char.isDigit = [] := by simp [other]
    rw [readUnsigned, wholePart?_nonzero nonzero, nothing] at read
    cases read

/-- No word starts with a digit, and none has a digit after a minus sign. -/
theorem readWord?_of_digit {c : Char} (digit : c.isDigit = true) (s : List Char) :
    readWord? (c :: s) = none ∧ readWord? ('-' :: c :: s) = none := by
  have apart (letter : Char) (other : letter.isDigit = false) : (letter == c) = false := by
    rw [beq_eq_false_iff_ne]
    rintro rfl
    rw [digit] at other
    cases other
  simp [readWord?, words, List.isPrefixOf?, apart 'n' (by decide), apart 't' (by decide),
    apart 'f' (by decide), apart 'N' (by decide), apart 'I' (by decide), apart '-' (by decide)]

/-- A binary number in its one form is read from what is written of it. -/
theorem lossless_of_regular {x : Binary64} (regular : x.Regular) : Lossless x := by
  cases x with
  | finite negative m exponent =>
    have read := readUnsigned_magnitude floatNotation negative regular
    obtain ⟨c, more, spelled, digit⟩ := isDigit_of_readUnsigned read
    obtain ⟨plain, signed⟩ := readWord?_of_digit digit more
    rw [spelled] at read
    cases negative with
    | true =>
      have text : Binary64.chars floatNotation (.finite true m exponent) = '-' :: c :: more := by
        rw [← spelled]
        rfl
      rw [Lossless, text, readScalar, signed, readNumber, minusSign]
      simp only [read]
      rfl
    | false =>
      have text : Binary64.chars floatNotation (.finite false m exponent) = c :: more := by
        rw [← spelled]
        rfl
      have unsigned : minusSign (c :: more) = (false, c :: more) := by
        unfold minusSign
        split
        next same => cases same; cases digit
        next => rfl
      rw [Lossless, text, readScalar, plain, readNumber, unsigned]
      simp only [read]
      rfl
  | infinite negative => cases negative <;> rfl
  | undefined => rfl

end Json

/-- The average of a report is read from what is written of it. -/
theorem Report.averageLines_lossless (r : Report) : Json.Lossless r.averageLines :=
  Json.lossless_of_regular r.meanLines.roundToTenth_regular

end CloneScan
