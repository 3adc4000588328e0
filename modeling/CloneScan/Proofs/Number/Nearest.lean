import CloneScan.Number.Binary64
import Mathlib.Algebra.Order.Archimedean.Basic
import Mathlib.Algebra.Order.Field.Power
import Mathlib.Data.Rat.Floor
import Mathlib.Tactic.FieldSimp
import Mathlib.Tactic.Linarith
import Mathlib.Tactic.NormNum
import Mathlib.Tactic.Positivity
import Mathlib.Tactic.Ring

/-! What rounds to a binary number. Around each number lies its basin: half a unit to each side, and a
quarter of a unit below a power of two, where the spacing changes. Every fraction and every decimal in
the basin rounds to the number. -/
namespace CloneScan

namespace Number

/-- A quotient is rounded to any whole number that is half a unit away at most, and to an even one if
it lies half way. -/
theorem roundDiv_eq {n d k : Nat} (positive : 0 < d) (low : 2 * k * d ≤ 2 * n + d)
    (high : 2 * n ≤ 2 * k * d + d)
    (tie : 2 * k * d = 2 * n + d ∨ 2 * n = 2 * k * d + d → k % 2 = 0) : roundDiv n d = k := by
  have split := Nat.div_add_mod n d
  have small := Nat.mod_lt n positive
  unfold roundDiv
  generalize n / d = q at *
  generalize n % d = r at *
  subst split
  have below : q ≤ k := by
    by_contra above
    have := Nat.mul_le_mul_right d (Nat.not_le.mp above)
    nlinarith
  have above : k ≤ q + 1 := by
    by_contra below
    have := Nat.mul_le_mul_right d (Nat.not_le.mp below)
    nlinarith
  rcases (by omega : k = q ∨ k = q + 1) with rfl | rfl
  · have near : 2 * r ≤ d := by nlinarith
    by_cases half : 2 * r = d
    · have even := tie (.inr (by nlinarith))
      simp [half, even]
    · rw [if_pos (by omega)]
  · have near : d ≤ 2 * r := by nlinarith
    by_cases half : 2 * r = d
    · have even := tie (.inl (by nlinarith))
      rw [if_neg (by omega), if_neg (by omega)]
      omega
    · rw [if_neg (by omega), if_pos (by omega)]

end Number

namespace Binary64

open Number

/-! ## Units -/

theorem inUnits_pos {den : Nat} (positive : 0 < den) (num : Nat) (exponent : Int) :
    0 < (inUnits num den exponent).2 := by
  unfold inUnits
  split
  · exact Nat.mul_pos positive (Nat.pow_pos (by decide))
  · exact positive

theorem zpow_toNat {base : ℚ} {i : Int} (nonnegative : 0 ≤ i) : base ^ i.toNat = base ^ i := by
  rw [← zpow_natCast, Int.toNat_of_nonneg nonnegative]

/-- A fraction in units of a power of two is worth the fraction divided by that power. -/
theorem inUnits_value {den : Nat} (positive : 0 < den) (num : Nat) (exponent : Int) :
    ((inUnits num den exponent).1 : ℚ) / (inUnits num den exponent).2 =
      num / den / 2 ^ exponent := by
  have filled : (den : ℚ) ≠ 0 := by exact_mod_cast positive.ne'
  unfold inUnits
  split
  next up =>
    have power := @zpow_toNat 2 exponent up
    simp only [Nat.pow_eq]
    push_cast
    rw [power, div_div]
  next down =>
    have power := @zpow_toNat 2 (-exponent) (by omega)
    simp only [Nat.pow_eq]
    push_cast
    rw [power, zpow_neg]
    field_simp

/-- A positive fraction lies between the powers of two that its logarithms tell. -/
theorem ratio_bounds {num den : Nat} (numerator : 0 < num) (denominator : 0 < den) :
    (2 : ℚ) ^ ((num.log2 : Int) - den.log2 - 1) < num / den ∧
      (num / den : ℚ) < 2 ^ ((num.log2 : Int) - den.log2 + 1) := by
  have low (n : Nat) (positive : 0 < n) : (2 : ℚ) ^ n.log2 ≤ n := by
    exact_mod_cast Nat.log2_self_le positive.ne'
  have high (n : Nat) : (n : ℚ) < 2 ^ n.log2 * 2 := by
    exact_mod_cast (pow_succ 2 n.log2) ▸ Nat.lt_log2_self
  have filled : (0 : ℚ) < den := by exact_mod_cast denominator
  have two : (2 : ℚ) ≠ 0 := by norm_num
  have lowNum := low num numerator
  have lowDen := low den denominator
  have highNum := high num
  have highDen := high den
  have powerNum : (0 : ℚ) < 2 ^ num.log2 := by positivity
  have powerDen : (0 : ℚ) < 2 ^ den.log2 := by positivity
  rw [zpow_sub₀ two, zpow_add₀ two, zpow_sub₀ two, zpow_natCast, zpow_natCast, zpow_one]
  constructor
  · rw [div_div, div_lt_div_iff₀ (by positivity) filled]
    nlinarith
  · rw [div_mul_eq_mul_div, div_lt_div_iff₀ filled powerDen]
    nlinarith

theorem two_zpow_lt {i j : Int} : (2 : ℚ) ^ i < 2 ^ j ↔ i < j :=
  zpow_lt_zpow_iff_right₀ (by norm_num)

/-- The exponent of a fraction is told by the powers of two around it. -/
theorem exponentFor_eq {num den : Nat} (numerator : 0 < num) (denominator : 0 < den) {e : Int}
    (low : (2 : ℚ) ^ (52 + e) ≤ num / den) (high : (num / den : ℚ) < 2 ^ (53 + e)) :
    exponentFor num den = max e leastExponent := by
  obtain ⟨above, below⟩ := ratio_bounds numerator denominator
  unfold exponentFor
  generalize bits : (num.log2 : Int) - den.log2 = size at above below ⊢
  have value := inUnits_value denominator num (size - 52)
  have positive := inUnits_pos denominator num (size - 52)
  rcases units : inUnits num den (size - 52) with ⟨n, d⟩
  rw [units] at value positive
  dsimp only at value positive ⊢
  rw [units]
  have short : n < d * Nat.pow 2 52 ↔ (num / den : ℚ) < 2 ^ size := by
    have filled : (0 : ℚ) < d := by exact_mod_cast positive
    have whole : (2 : ℚ) ^ size = 2 ^ 52 * 2 ^ (size - 52) := by
      rw [← zpow_natCast, ← zpow_add₀ (by norm_num)]
      congr 1
      push_cast
      omega
    rw [whole, ← div_lt_iff₀ (by positivity), ← value, div_lt_iff₀ filled, mul_comm, Nat.pow_eq]
    exact_mod_cast Iff.rfl
  by_cases less : n < d * Nat.pow 2 52
  · have first := two_zpow_lt.mp (low.trans_lt (short.mp less))
    have last := two_zpow_lt.mp (above.trans high)
    rw [if_pos less]
    congr 1
    omega
  · have first := two_zpow_lt.mp ((not_lt.mp (mt short.mpr less)).trans_lt high)
    have last := two_zpow_lt.mp (low.trans_lt below)
    rw [if_neg less]
    congr 1
    omega

/-! ## Basins -/

/-- How far the basin of a number reaches down, in units of its last place. -/
def reach (m : Nat) (exponent : Int) : ℚ :=
  if m = Nat.pow 2 52 ∧ leastExponent < exponent then 1 / 4 else 1 / 2

structure Near (m : Nat) (exponent : Int) (value : ℚ) : Prop where
  low : (m - reach m exponent) * 2 ^ exponent ≤ value
  high : value ≤ (m + 1 / 2) * 2 ^ exponent
  closed : m % 2 = 1 → (m - reach m exponent) * 2 ^ exponent < value ∧
    value < (m + 1 / 2) * 2 ^ exponent

/-- The significands and exponents of numbers. Only at the least exponent may a significand be short. -/
structure Canonical (m : Nat) (exponent : Int) : Prop where
  short : m < Nat.pow 2 53
  least : leastExponent ≤ exponent
  greatest : exponent ≤ greatestExponent
  full : Nat.pow 2 52 ≤ m ∨ exponent = leastExponent

section Near

variable {m : Nat} {e : Int} {num den : Nat}

theorem reach_le (m : Nat) (e : Int) : 1 / 4 ≤ reach m e ∧ reach m e ≤ 1 / 2 := by
  unfold reach
  split <;> norm_num

/-- In units in which a fraction is next to a whole number it is rounded to that number. -/
theorem roundDiv_inUnits {k : Nat} (denominator : 0 < den)
    (low : (k - 1 / 2 : ℚ) * 2 ^ e ≤ num / den) (high : (num / den : ℚ) ≤ (k + 1 / 2) * 2 ^ e)
    (tie : k % 2 = 1 → (k - 1 / 2 : ℚ) * 2 ^ e < num / den ∧ (num / den : ℚ) < (k + 1 / 2) * 2 ^ e) :
    roundDiv (inUnits num den e).1 (inUnits num den e).2 = k := by
  have value := inUnits_value denominator num e
  have positive := inUnits_pos denominator num e
  rcases units : inUnits num den e with ⟨n, d⟩
  rw [units] at value positive
  dsimp only at value positive ⊢
  have filled : (0 : ℚ) < d := by exact_mod_cast positive
  have unit : (0 : ℚ) < 2 ^ e := by positivity
  rw [eq_div_iff unit.ne'] at value
  rw [← value] at low high tie
  simp only [mul_le_mul_iff_of_pos_right unit, mul_lt_mul_iff_of_pos_right unit, le_div_iff₀ filled,
    div_le_iff₀ filled, lt_div_iff₀ filled, div_lt_iff₀ filled] at low high tie
  refine roundDiv_eq positive ?_ ?_ ?_
  · have : (2 * k * d : ℚ) ≤ 2 * n + d := by linarith
    exact_mod_cast this
  · have : (2 * n : ℚ) ≤ 2 * k * d + d := by linarith
    exact_mod_cast this
  · intro half
    by_contra odd
    obtain ⟨above, below⟩ := tie (by omega)
    have strict : (2 * k * d : ℚ) < 2 * n + d ∧ (2 * n : ℚ) < 2 * k * d + d := by
      constructor <;> linarith
    have strictly : 2 * k * d < 2 * n + d ∧ 2 * n < 2 * k * d + d := by exact_mod_cast strict
    omega

def bounded (negative : Bool) (m : Nat) (e : Int) : Binary64 :=
  if greatestExponent < e then infinite negative else finite negative m e

/-- A significand of one bit too many is a power of two, and loses its last bit. -/
theorem ofRatio_eq {k : Nat} (negative : Bool) (numerator : 0 < num) (exponent : exponentFor num den = e)
    (significand : roundDiv (inUnits num den e).1 (inUnits num den e).2 = k) :
    ofRatio negative num den =
      if k = Nat.pow 2 53 then bounded negative (Nat.pow 2 52) (e + 1) else bounded negative k e := by
  rw [ofRatio, if_neg numerator.ne', exponent]
  dsimp only
  rw [significand]
  by_cases full : k = Nat.pow 2 53
  · rw [if_pos full, if_pos full]
    rfl
  · rw [if_neg full, if_neg full]
    rfl

theorem bounded_eq {negative : Bool} (greatest : e ≤ greatestExponent) :
    bounded negative m e = .finite negative m e :=
  if_neg (not_lt.mpr greatest)

/-- Where the unit is that of a number, a fraction in its basin rounds to it. -/
theorem ofRatio_of_exponentFor {negative : Bool} (canonical : Canonical m e) (numerator : 0 < num)
    (denominator : 0 < den) (near : Near m e (num / den)) (exponent : exponentFor num den = e) :
    ofRatio negative num den = .finite negative m e := by
  have unit : (0 : ℚ) < 2 ^ e := by positivity
  have wide : (m - 1 / 2 : ℚ) * 2 ^ e ≤ (m - reach m e) * 2 ^ e := by
    have := (reach_le m e).2
    gcongr
  have significand : roundDiv (inUnits num den e).1 (inUnits num den e).2 = m := by
    refine roundDiv_inUnits denominator (wide.trans near.low) near.high fun odd => ?_
    exact ⟨wide.trans_lt (near.closed odd).1, (near.closed odd).2⟩
  rw [ofRatio_eq negative numerator exponent significand, if_neg canonical.short.ne,
    bounded_eq canonical.greatest]

theorem unit_pred (e : Int) : (2 : ℚ) ^ e = 2 * 2 ^ (e - 1) := by
  rw [← zpow_one_add₀ (by norm_num)]
  congr 1
  omega

/-- Just below a power of two the unit is half as large. A fraction in its basin is rounded up to it. -/
theorem ofRatio_below_power {negative : Bool} (least : leastExponent < e)
    (greatest : e ≤ greatestExponent) (numerator : 0 < num) (denominator : 0 < den)
    (near : Near (Nat.pow 2 52) e (num / den)) (below : (num / den : ℚ) < 2 ^ (52 + e)) :
    ofRatio negative num den = .finite negative (Nat.pow 2 52) e := by
  have half := unit_pred e
  have unit : (0 : ℚ) < 2 ^ (e - 1) := by positivity
  have low := near.low
  have whole : (2 : ℚ) ^ (52 + e) = 2 ^ 53 * 2 ^ (e - 1) := by
    rw [zpow_add₀ (by norm_num), half]
    norm_num
    ring
  have close : ((Nat.pow 2 53 : Nat) - 1 / 2 : ℚ) * 2 ^ (e - 1) ≤ num / den := by
    rw [reach, if_pos ⟨rfl, least⟩, half] at low
    refine le_trans (le_of_eq ?_) low
    norm_num
    ring
  have significand : roundDiv (inUnits num den (e - 1)).1 (inUnits num den (e - 1)).2 =
      Nat.pow 2 53 := by
    refine roundDiv_inUnits denominator close ?_ fun odd => absurd odd (by decide)
    rw [whole] at below
    refine below.le.trans ?_
    gcongr
    norm_num
  have exponent : exponentFor num den = e - 1 := by
    have room : leastExponent ≤ e - 1 := by omega
    have first : (2 : ℚ) ^ (52 + (e - 1)) ≤ num / den := by
      refine le_trans ?_ close
      rw [zpow_add₀ (by norm_num)]
      gcongr
      norm_num
    have last : (num / den : ℚ) < 2 ^ (53 + (e - 1)) := by
      refine below.trans_eq ?_
      congr 1
      omega
    rw [exponentFor_eq numerator denominator first last, max_eq_left room]
  rw [ofRatio_eq negative numerator exponent significand, if_pos rfl, sub_add_cancel,
    bounded_eq greatest]

/-- What is next to a number of 53 bits has no more bits before the point. -/
theorem Near.lt_power {value : ℚ} (near : Near m e value) (short : m < Nat.pow 2 53) :
    value < 2 ^ (53 + e) := by
  have cast : (m + 1 : ℚ) ≤ 2 ^ 53 := by exact_mod_cast Nat.succ_le_of_lt short
  rw [zpow_add₀ (by norm_num)]
  refine near.high.trans_lt ?_
  gcongr
  norm_num at cast ⊢
  linarith

/-- What is next to a significand above a power of two is above that power. -/
theorem Near.power_lt {value : ℚ} (near : Near m e value) (larger : Nat.pow 2 52 < m) :
    (2 : ℚ) ^ (52 + e) < value := by
  have next : (4503599627370497 : ℚ) ≤ m := by exact_mod_cast Nat.succ_le_of_lt larger
  have low := near.low
  rw [reach, if_neg fun power => larger.ne' power.1] at low
  rw [zpow_add₀ (by norm_num)]
  refine lt_of_lt_of_le ?_ low
  gcongr
  norm_num
  linarith

/-- A fraction in the basin of a number rounds to it. -/
theorem ofRatio_near {negative : Bool} (canonical : Canonical m e) (numerator : 0 < num)
    (denominator : 0 < den) (near : Near m e (num / den)) :
    ofRatio negative num den = .finite negative m e := by
  have unit : (0 : ℚ) < 2 ^ e := by positivity
  have positive : (0 : ℚ) < num / den := by
    have above : (0 : ℚ) < num := by exact_mod_cast numerator
    have below : (0 : ℚ) < den := by exact_mod_cast denominator
    exact div_pos above below
  rcases le_or_gt ((2 : ℚ) ^ (52 + e)) (num / den) with full | less
  · refine ofRatio_of_exponentFor canonical numerator denominator near ?_
    rw [exponentFor_eq numerator denominator full (near.lt_power canonical.short),
      max_eq_left canonical.least]
  · rcases canonical.least.eq_or_lt with rfl | least
    · -- Below the full significands all units are the least one.
      obtain ⟨n, first, last⟩ := exists_mem_Ico_zpow positive (by norm_num : (1 : ℚ) < 2)
      have under := two_zpow_lt.mp (first.trans_lt less)
      refine ofRatio_of_exponentFor canonical numerator denominator near ?_
      rw [← add_sub_cancel 52 n] at first
      rw [show n + 1 = 53 + (n - 52) by omega] at last
      rw [exponentFor_eq numerator denominator first last, max_eq_right (by omega)]
    · have full := canonical.full.resolve_right least.ne'
      obtain rfl : Nat.pow 2 52 = m := by
        refine full.eq_or_lt.resolve_right fun larger => ?_
        exact absurd (near.power_lt larger) (not_lt.mpr less.le)
      exact ofRatio_below_power least canonical.greatest numerator denominator near less

/-! ## Results -/

def Regular : Binary64 → Prop
  | finite _ m exponent => Canonical m exponent
  | _ => True

theorem exponentFor_bounds (numerator : 0 < num) (denominator : 0 < den) :
    leastExponent ≤ exponentFor num den ∧ (num / den : ℚ) < 2 ^ (53 + exponentFor num den) ∧
      (exponentFor num den = leastExponent ∨ (2 : ℚ) ^ (52 + exponentFor num den) ≤ num / den) := by
  have positive : (0 : ℚ) < num / den := by
    have above : (0 : ℚ) < num := by exact_mod_cast numerator
    have below : (0 : ℚ) < den := by exact_mod_cast denominator
    exact div_pos above below
  obtain ⟨n, first, last⟩ := exists_mem_Ico_zpow positive (by norm_num : (1 : ℚ) < 2)
  rw [← add_sub_cancel 52 n] at first
  rw [show n + 1 = 53 + (n - 52) by omega] at last
  rw [exponentFor_eq numerator denominator first last]
  refine ⟨le_max_right _ _, last.trans_le ?_, ?_⟩
  · exact zpow_le_zpow_right₀ (by norm_num) (by omega)
  · rcases le_total leastExponent (n - 52) with normal | least
    · rw [max_eq_left normal]
      exact .inr first
    · exact .inl (max_eq_right least)

/-- Rounding gives a significand of 53 bits, or the power of two after them. -/
theorem significand_bounds (numerator : 0 < num) (denominator : 0 < den)
    (exponent : exponentFor num den = e) :
    let k := roundDiv (inUnits num den e).1 (inUnits num den e).2
    k ≤ Nat.pow 2 53 ∧ (e = leastExponent ∨ Nat.pow 2 52 ≤ k) := by
  obtain ⟨_, above, below⟩ := exponentFor_bounds numerator denominator
  rw [exponent] at above below
  have unit : (0 : ℚ) < 2 ^ e := by positivity
  have value := inUnits_value denominator num e
  have positive := inUnits_pos denominator num e
  rcases units : inUnits num den e with ⟨n, d⟩
  rw [units] at value positive
  dsimp only at value positive ⊢
  have filled : (0 : ℚ) < d := by exact_mod_cast positive
  rw [eq_div_iff unit.ne'] at value
  rw [← value, zpow_add₀ (by norm_num), mul_lt_mul_iff_of_pos_right unit, div_lt_iff₀ filled] at above
  rw [← value, zpow_add₀ (by norm_num), mul_le_mul_iff_of_pos_right unit, le_div_iff₀ filled] at below
  have less : n < 2 ^ 53 * d := by exact_mod_cast above
  obtain ⟨low, high⟩ := roundDiv_near n d positive
  constructor
  · by_contra larger
    have next := Nat.mul_le_mul_right d (Nat.succ_le_of_lt (Nat.not_le.mp larger))
    simp only [Nat.pow_eq] at next
    nlinarith
  · refine below.imp_right fun full => ?_
    have enough : 2 ^ 52 * d ≤ n := by exact_mod_cast full
    by_contra smaller
    have next := Nat.mul_le_mul_right d (Nat.succ_le_of_lt (Nat.not_le.mp smaller))
    simp only [Nat.pow_eq] at next
    nlinarith

theorem bounded_regular {k : Nat} {negative : Bool} (short : k < Nat.pow 2 53)
    (least : leastExponent ≤ e) (full : Nat.pow 2 52 ≤ k ∨ e = leastExponent) :
    Regular (bounded negative k e) := by
  unfold bounded
  split
  next => trivial
  next small => exact ⟨short, least, not_lt.mp small, full⟩

theorem ofRatio_regular (negative : Bool) (num : Nat) (denominator : 0 < den) :
    Regular (ofRatio negative num den) := by
  rcases Nat.eq_zero_or_pos num with rfl | numerator
  · exact ⟨by decide, le_rfl, by decide, .inr rfl⟩
  · obtain ⟨least, _⟩ := exponentFor_bounds numerator denominator
    have bounds := significand_bounds numerator denominator rfl
    rw [ofRatio_eq negative numerator rfl rfl]
    split
    next => exact bounded_regular (by decide) (by omega) (.inl le_rfl)
    next short => exact bounded_regular (bounds.1.lt_of_ne short) least bounds.2.symm

theorem roundToTenth_regular (x : Binary64) : Regular x.roundToTenth := by
  cases x with
  | finite negative m exponent => exact ofRatio_regular negative _ (by decide)
  | infinite => trivial
  | undefined => trivial

end Near

/-! ## Decimals -/

theorem ten_pow_le {digits : Nat} (positive : 0 < digits) : 10 ^ (digits.log2 * 3 / 10) ≤ digits := by
  refine le_trans ?_ (Nat.log2_self_le positive.ne')
  refine (Nat.pow_le_pow_iff_left (by decide : 10 ≠ 0)).mp ?_
  calc (10 ^ (digits.log2 * 3 / 10)) ^ 10 = 10 ^ (digits.log2 * 3 / 10 * 10) := (pow_mul ..).symm
    _ ≤ 10 ^ (3 * digits.log2) := Nat.pow_le_pow_right (by decide) (by omega)
    _ = (10 ^ 3) ^ digits.log2 := pow_mul ..
    _ ≤ (2 ^ 10) ^ digits.log2 := Nat.pow_le_pow_left (by decide) _
    _ = (2 ^ digits.log2) ^ 10 := by rw [← pow_mul, ← pow_mul, mul_comm]

theorem lt_ten_pow (digits : Nat) : digits < 10 ^ ((digits.log2 + 1) / 3 + 1) := by
  refine Nat.lt_log2_self.trans_le ?_
  calc 2 ^ (digits.log2 + 1) ≤ 2 ^ (3 * ((digits.log2 + 1) / 3 + 1)) :=
        Nat.pow_le_pow_right (by decide) (by omega)
    _ = (2 ^ 3) ^ ((digits.log2 + 1) / 3 + 1) := pow_mul ..
    _ ≤ 10 ^ ((digits.log2 + 1) / 3 + 1) := Nat.pow_le_pow_left (by decide) _

section Decimals

variable {m digits : Nat} {e power : Int}

/-- A decimal next to a number is not so large that it is settled by size. -/
theorem Near.not_huge (near : Near m e (digits * 10 ^ power)) (canonical : Canonical m e)
    (positive : 0 < digits) : ¬ 310 < ((digits.log2 * 3 / 10 : Nat) : Int) + power := by
  intro huge
  have size : ((10 : ℚ) ^ (digits.log2 * 3 / 10)) ≤ digits := by exact_mod_cast ten_pow_le positive
  have above : (10 : ℚ) ^ (310 : Int) < digits * 10 ^ power := by
    calc (10 : ℚ) ^ (310 : Int) < 10 ^ (((digits.log2 * 3 / 10 : Nat) : Int) + power) :=
          zpow_lt_zpow_right₀ (by norm_num) huge
      _ = 10 ^ (digits.log2 * 3 / 10) * 10 ^ power := by
          rw [zpow_add₀ (by norm_num), zpow_natCast]
      _ ≤ digits * 10 ^ power := by gcongr
  have below : (digits * 10 ^ power : ℚ) < 2 ^ (1024 : Int) := by
    refine (near.lt_power canonical.short).trans_le ?_
    refine zpow_le_zpow_right₀ (by norm_num) ?_
    have := canonical.greatest
    rw [greatestExponent] at this
    omega
  have order : 2 ^ 1024 ≤ 10 ^ 310 := by decide +kernel
  refine absurd (above.trans below) (not_lt.mpr ?_)
  exact_mod_cast order

/-- Nor is it so small. -/
theorem Near.not_tiny (near : Near m e (digits * 10 ^ power)) (canonical : Canonical m e)
    (filled : 0 < m) : ¬ (((digits.log2 + 1) / 3 + 1 : Nat) : Int) + power < -330 := by
  intro tiny
  have size : (digits : ℚ) < 10 ^ ((digits.log2 + 1) / 3 + 1) := by exact_mod_cast lt_ten_pow digits
  have below : (digits * 10 ^ power : ℚ) < 10 ^ (-330 : Int) := by
    calc (digits * 10 ^ power : ℚ) < 10 ^ ((digits.log2 + 1) / 3 + 1) * 10 ^ power := by gcongr
      _ = 10 ^ ((((digits.log2 + 1) / 3 + 1 : Nat) : Int) + power) := by
          rw [zpow_add₀ (by norm_num), zpow_natCast]
      _ ≤ 10 ^ (-330 : Int) := zpow_le_zpow_right₀ (by norm_num) tiny.le
  have above : (2 : ℚ) ^ (-1075 : Int) ≤ digits * 10 ^ power := by
    have one : (1 : ℚ) ≤ m := by exact_mod_cast filled
    have short := (reach_le m e).2
    calc (2 : ℚ) ^ (-1075 : Int) = 1 / 2 * 2 ^ (-1074 : Int) := by
          rw [show (-1074 : Int) = 1 + -1075 by rfl, zpow_add₀ (by norm_num)]
          ring
      _ ≤ 1 / 2 * 2 ^ e := by
          gcongr
          · norm_num
          · exact canonical.least
      _ ≤ (m - reach m e) * 2 ^ e := by
          gcongr
          linarith
      _ ≤ digits * 10 ^ power := near.low
  have order : 2 ^ 1075 ≤ 10 ^ 330 := by decide +kernel
  refine absurd (above.trans_lt below) (not_lt.mpr ?_)
  rw [zpow_neg, zpow_neg]
  refine inv_anti₀ (by positivity) ?_
  exact_mod_cast order

/-- A decimal in the basin of a number rounds to it. -/
theorem ofDecimal_near {negative : Bool} (canonical : Canonical m e) (filled : 0 < m)
    (positive : 0 < digits) (near : Near m e (digits * 10 ^ power)) :
    ofDecimal negative digits power = .finite negative m e := by
  rw [ofDecimal, if_neg positive.ne', if_neg (near.not_huge canonical positive),
    if_neg (near.not_tiny canonical filled)]
  split
  next up =>
    refine ofRatio_near canonical (Nat.mul_pos positive (Nat.pow_pos (by decide))) one_pos ?_
    have same := @zpow_toNat 10 power up
    push_cast [Nat.pow_eq]
    rwa [same, div_one]
  next down =>
    refine ofRatio_near canonical positive (Nat.pow_pos (by decide)) ?_
    have same := @zpow_toNat 10 (-power) (by omega)
    push_cast [Nat.pow_eq]
    rwa [same, zpow_neg, div_inv_eq_mul]

end Decimals

end Binary64

end CloneScan
