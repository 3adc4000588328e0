import CloneScan.Number.Shortest
import CloneScan.Proofs.Number.Nearest

/-! The shortest decimal of a number rounds to the number. Whatever is chosen lies in the basin, and
something is chosen, for of the two decimals of seventeen digits around a number the nearer one always
lies in its basin. -/
namespace CloneScan

namespace Numeral

theorem lt_ten_pow_length (n : Nat) : n < 10 ^ (ofNat n).length := by
  fun_induction ofNat n with
  | case1 n small => simpa using small
  | case2 n large ih =>
    rw [List.length_append, List.length_singleton, pow_succ]
    omega

theorem ten_pow_length_le {n : Nat} (positive : 0 < n) : 10 ^ (ofNat n).length ≤ 10 * n := by
  fun_induction ofNat n with
  | case1 n small =>
    rw [List.length_singleton]
    omega
  | case2 n large ih =>
    have less := ih (by omega)
    rw [List.length_append, List.length_singleton, pow_succ]
    omega

end Numeral

namespace Binary64

/-! ## Comparisons over one denominator -/

/-- Both sides of a comparison are what they stand for, by one and the same factor. -/
theorem sides_eq {den : Nat} (positive : 0 < den) (power : Int) :
    ∃ factor : ℚ, 0 < factor ∧ ∀ digits n : Nat,
      ((sides den digits power n).1 : ℚ) = digits * 10 ^ power * factor ∧
        ((sides den digits power n).2 : ℚ) = n / den * factor := by
  have filled : (0 : ℚ) < den := by exact_mod_cast positive
  unfold sides
  split
  next up =>
    have same := @zpow_toNat 10 power up
    refine ⟨den, filled, fun digits n => ?_⟩
    push_cast [Nat.pow_eq]
    rw [same, div_mul_cancel₀ _ filled.ne']
    exact ⟨rfl, rfl⟩
  next down =>
    have same := @zpow_toNat 10 (-power) (by omega)
    refine ⟨den * 10 ^ (-power), by positivity, fun digits n => ?_⟩
    push_cast [Nat.pow_eq]
    rw [same, zpow_neg]
    constructor
    · field_simp
    · field_simp

section Sides

variable {den digits n : Nat} {power : Int}

theorem sides_le (positive : 0 < den) :
    (sides den digits power n).1 ≤ (sides den digits power n).2 ↔
      (digits * 10 ^ power : ℚ) ≤ n / den := by
  obtain ⟨factor, filled, same⟩ := sides_eq positive power
  obtain ⟨left, right⟩ := same digits n
  rw [← mul_le_mul_iff_of_pos_right filled, ← left, ← right]
  exact_mod_cast Iff.rfl

theorem le_sides (positive : 0 < den) :
    (sides den digits power n).2 ≤ (sides den digits power n).1 ↔
      (n / den : ℚ) ≤ digits * 10 ^ power := by
  obtain ⟨factor, filled, same⟩ := sides_eq positive power
  obtain ⟨left, right⟩ := same digits n
  rw [← mul_le_mul_iff_of_pos_right filled, ← left, ← right]
  exact_mod_cast Iff.rfl

theorem sides_lt (positive : 0 < den) :
    (sides den digits power n).1 < (sides den digits power n).2 ↔
      (digits * 10 ^ power : ℚ) < n / den :=
  lt_iff_lt_of_le_iff_le (le_sides positive)

theorem lt_sides (positive : 0 < den) :
    (sides den digits power n).2 < (sides den digits power n).1 ↔
      (n / den : ℚ) < digits * 10 ^ power :=
  lt_iff_lt_of_le_iff_le (sides_le positive)

end Sides

def Decimal.worth (d : Decimal) : ℚ := d.digits * 10 ^ d.power

theorem Basin.contains_iff {b : Basin} (positive : 0 < b.den) (d : Decimal) :
    b.contains d = true ↔
      if b.closed then (b.low / b.den : ℚ) ≤ d.worth ∧ d.worth ≤ b.high / b.den
      else (b.low / b.den : ℚ) < d.worth ∧ d.worth < b.high / b.den := by
  rw [contains, Decimal.worth]
  dsimp only
  cases b.closed with
  | true => simp [le_sides positive, sides_le positive]
  | false => simp [lt_sides positive, sides_lt positive]

/-- Whatever lies between the ends is contained. -/
theorem Basin.contains_of_lt {b : Basin} (positive : 0 < b.den) {d : Decimal}
    (low : (b.low / b.den : ℚ) < d.worth) (high : d.worth < b.high / b.den) : b.contains d = true := by
  rw [contains_iff positive]
  cases b.closed with
  | true => simpa using ⟨low.le, high.le⟩
  | false => simpa using ⟨low, high⟩

/-! ## The basin of a number -/

section Basins

variable {m : Nat} {e : Int}

/-- A basin is held over one denominator, in quarters of the last place. -/
theorem basin_unit (m : Nat) (e : Int) :
    ∃ unit : Nat, 0 < (basin m e).den ∧ ((unit / (basin m e).den : ℚ) = 2 ^ e / 4) ∧
      (basin m e).value = 4 * m * unit ∧ (basin m e).high = (4 * m + 2) * unit ∧
      (basin m e).low =
        (4 * m - if m = Nat.pow 2 52 ∧ leastExponent < e then 1 else 2) * unit := by
  have quarter : (2 : ℚ) ^ (e - 2) = 2 ^ e / 4 := by
    rw [zpow_sub₀ (by norm_num)]
    norm_num
  refine ⟨_, ?_, ?_, rfl, rfl, rfl⟩
  · simp only [basin]
    split
    · exact one_pos
    · exact Nat.pow_pos (by decide)
  · simp only [basin]
    split
    next up =>
      have same := @zpow_toNat 2 (e - 2) up
      push_cast [Nat.pow_eq]
      rw [same, quarter, div_one]
    next down =>
      have same := @zpow_toNat 2 (-(e - 2)) (by omega)
      push_cast [Nat.pow_eq]
      rw [same, zpow_neg, one_div, inv_inv, quarter]

theorem basin_eq (filled : 0 < m) :
    0 < (basin m e).den ∧ ((basin m e).value / (basin m e).den : ℚ) = m * 2 ^ e ∧
      ((basin m e).low / (basin m e).den : ℚ) = (m - reach m e) * 2 ^ e ∧
      ((basin m e).high / (basin m e).den : ℚ) = (m + 1 / 2) * 2 ^ e := by
  obtain ⟨unit, positive, quarter, value, high, low⟩ := basin_unit m e
  have below : ((4 * m - (if m = Nat.pow 2 52 ∧ leastExponent < e then 1 else 2) : Nat) : ℚ) =
      4 * (m - reach m e) := by
    unfold reach
    split
    · rw [Nat.cast_sub (by omega)]
      push_cast
      ring
    · rw [Nat.cast_sub (by omega)]
      push_cast
      ring
  refine ⟨positive, ?_, ?_, ?_⟩
  · rw [value, Nat.cast_mul, mul_div_assoc, quarter]
    push_cast
    ring
  · rw [low, Nat.cast_mul, mul_div_assoc, quarter, below]
    ring
  · rw [high, Nat.cast_mul, mul_div_assoc, quarter]
    push_cast
    ring

/-- What a basin contains rounds to its number. -/
theorem near_of_contains (filled : 0 < m) {d : Decimal} (inside : (basin m e).contains d = true) :
    Near m e d.worth := by
  obtain ⟨positive, _, low, high⟩ := @basin_eq m e filled
  rw [Basin.contains_iff positive, low, high] at inside
  have closed : (basin m e).closed = (m % 2 == 0) := rfl
  rcases Nat.mod_two_eq_zero_or_one m with even | odd
  · rw [closed, even] at inside
    exact ⟨inside.1, inside.2, fun odd => by omega⟩
  · rw [closed, odd] at inside
    exact ⟨inside.1.le, inside.2.le, fun _ => inside⟩

theorem reach_lt (filled : 0 < m) : (0 : ℚ) < (m - reach m e) * 2 ^ e := by
  have one : (1 : ℚ) ≤ m := by exact_mod_cast filled
  have short := (reach_le m e).2
  have unit : (0 : ℚ) < 2 ^ e := by positivity
  refine mul_pos ?_ unit
  linarith

/-- No decimal next to a number is zero. -/
theorem Near.digits_pos (filled : 0 < m) {d : Decimal} (near : Near m e d.worth) : 0 < d.digits := by
  refine Nat.pos_of_ne_zero fun none => ?_
  have low := near.low
  rw [Decimal.worth, none, Nat.cast_zero, zero_mul] at low
  exact absurd (reach_lt filled) (not_lt.mpr low)

/-! ## Seventeen digits -/

/-- The leading place is not above the number. -/
theorem leadingPlace_le {b : Basin} (filled : 0 < b.value) (positive : 0 < b.den) :
    (10 : ℚ) ^ b.leadingPlace ≤ b.value / b.den := by
  unfold Basin.leadingPlace
  dsimp only
  split
  next fits =>
    have := (sides_le positive).mp fits
    simpa using this
  next =>
    have above : ((10 : ℚ) ^ (Numeral.ofNat b.value).length) ≤ 10 * b.value := by
      exact_mod_cast Numeral.ten_pow_length_le filled
    have below : (b.den : ℚ) ≤ 10 ^ (Numeral.ofNat b.den).length := by
      exact_mod_cast (Numeral.lt_ten_pow_length b.den).le
    have den : (0 : ℚ) < b.den := by exact_mod_cast positive
    rw [zpow_sub₀ (by norm_num), zpow_sub₀ (by norm_num), zpow_natCast, zpow_natCast, zpow_one,
      div_div, div_le_div_iff₀ (by positivity) den]
    calc (10 : ℚ) ^ (Numeral.ofNat b.value).length * b.den
        ≤ 10 * b.value * 10 ^ (Numeral.ofNat b.den).length := by gcongr
      _ = b.value * (10 ^ (Numeral.ofNat b.den).length * 10) := by ring

theorem Basin.contains_of_neighbour? {b : Basin} {leading : Int} {count : Nat} {d : Decimal}
    (found : b.neighbour? leading count = some d) : b.contains d = true := by
  unfold neighbour? at found
  dsimp only at found
  split at found
  next first second =>
    split at found
    · exact Option.some.inj found ▸ second
    · exact Option.some.inj found ▸ first
  next first _ => exact Option.some.inj found ▸ first
  next _ second => exact Option.some.inj found ▸ second
  next => cases found

/-- The decimals of so many digits on both sides of a value. -/
theorem Basin.neighbours {b : Basin} (positive : 0 < b.den) (leading : Int) {count : Nat}
    (several : 0 < count) :
    ∃ floor ceiling : Decimal, floor.worth ≤ b.value / b.den ∧ (b.value / b.den : ℚ) < ceiling.worth ∧
      ceiling.worth = floor.worth + 10 ^ (leading - count + 1) ∧
      (b.contains floor = true ∨ b.contains ceiling = true →
        (b.neighbour? leading count).isSome = true) := by
  unfold neighbour?
  dsimp only
  generalize leading - count + 1 = power
  obtain ⟨factor, filled, same⟩ := sides_eq positive power
  obtain ⟨unit, value⟩ := same 1 b.value
  generalize (sides b.den 1 power b.value).1 = one at unit ⊢
  generalize (sides b.den 1 power b.value).2 = v at value ⊢
  rw [Nat.cast_one, one_mul] at unit
  have place : (0 : ℚ) < 10 ^ power := by positivity
  have whole : 0 < one := by
    have : (0 : ℚ) < one := unit ▸ mul_pos place filled
    exact_mod_cast this
  have rounded : (if v / one + 1 = Nat.pow 10 count then ⟨Nat.pow 10 (count - 1), power + 1⟩
      else ⟨v / one + 1, power⟩ : Decimal).worth = ((v / one : Nat) + 1) * 10 ^ power := by
    split
    next full =>
      obtain ⟨k, rfl⟩ := Nat.exists_eq_add_one.mpr several
      have cast : ((v / one : Nat) + 1 : ℚ) = 10 ^ (k + 1) := by exact_mod_cast full
      rw [cast, Decimal.worth, zpow_add₀ (by norm_num), Nat.add_sub_cancel]
      push_cast [Nat.pow_eq]
      ring
    next => simp [Decimal.worth]
  generalize (if v / one + 1 = Nat.pow 10 count then ⟨Nat.pow 10 (count - 1), power + 1⟩
    else ⟨v / one + 1, power⟩ : Decimal) = ceiling at rounded ⊢
  refine ⟨⟨v / one, power⟩, ceiling, ?_, ?_, ?_, ?_⟩
  · have floor : ((v / one : Nat) : ℚ) * one ≤ v := by exact_mod_cast Nat.div_mul_le_self v one
    rw [unit, value, ← mul_assoc, mul_le_mul_iff_of_pos_right filled] at floor
    exact floor
  · have next : (v : ℚ) < ((v / one : Nat) + 1) * one := by
      exact_mod_cast Nat.lt_mul_of_div_lt (Nat.lt_succ_self _) whole
    rw [unit, value, ← mul_assoc, mul_lt_mul_iff_of_pos_right filled] at next
    exact next.trans_eq rounded.symm
  · exact rounded.trans (by rw [Decimal.worth]; ring)
  · cases b.contains ⟨v / one, power⟩ <;> cases b.contains ceiling <;> simp

/-- A significand has less than sixteen places in units of twice the reach of its basin. -/
theorem lt_sixteen_places (short : m < Nat.pow 2 53) (e : Int) : (m : ℚ) < 2 * reach m e * 10 ^ 16 := by
  unfold reach
  split
  next power =>
    rw [power.1]
    norm_num
  next =>
    have cast : (m : ℚ) < 2 ^ 53 := by exact_mod_cast short
    norm_num at cast ⊢
    linarith

/-- Seventeen digits tell a number from all others. -/
theorem neighbour?_seventeen (short : m < Nat.pow 2 53) (filled : 0 < m) :
    ((basin m e).neighbour? (basin m e).leadingPlace 17).isSome = true := by
  obtain ⟨positive, value, low, high⟩ := @basin_eq m e filled
  have unit : (0 : ℚ) < 2 ^ e := by positivity
  have valued : 0 < (basin m e).value := by
    refine Nat.pos_of_ne_zero fun none => ?_
    have cast : (0 : ℚ) < m := by exact_mod_cast filled
    rw [none, Nat.cast_zero, zero_div] at value
    exact absurd value (mul_pos cast unit).ne
  have place := leadingPlace_le valued positive
  obtain ⟨floor, ceiling, below, above, apart, found⟩ :=
    Basin.neighbours positive (basin m e).leadingPlace (by decide : 0 < 17)
  have step : (10 : ℚ) ^ ((basin m e).leadingPlace - (17 : Nat) + 1) < 2 * reach m e * 2 ^ e := by
    rw [value] at place
    calc (10 : ℚ) ^ ((basin m e).leadingPlace - (17 : Nat) + 1)
        = 10 ^ (basin m e).leadingPlace / 10 ^ 16 := by
          rw [← zpow_natCast, ← zpow_sub₀ (by norm_num)]
          congr 1
          push_cast
          ring
      _ ≤ m * 2 ^ e / 10 ^ 16 := by gcongr
      _ < 2 * reach m e * 2 ^ e := by
          rw [div_lt_iff₀ (by norm_num)]
          nlinarith [lt_sixteen_places short e]
  have half := (reach_le m e).2
  rw [value] at below above
  refine found ?_
  rcases lt_or_ge (m * 2 ^ e - floor.worth) (reach m e * 2 ^ e) with near | far
  · left
    refine Basin.contains_of_lt positive ?_ ?_
    · rw [low]
      linarith
    · rw [high]
      nlinarith
  · right
    refine Basin.contains_of_lt positive ?_ ?_
    · rw [low]
      nlinarith [(reach_le m e).1]
    · rw [high]
      nlinarith

/-- The shortest decimal of a number is not zero, and it rounds to the number. -/
theorem shortest_near (short : m < Nat.pow 2 53) (filled : 0 < m) :
    0 < (shortest m e).digits ∧ Near m e (shortest m e).worth := by
  have near : Near m e (shortest m e).worth := by
    refine near_of_contains filled ?_
    unfold shortest
    dsimp only
    cases found : (List.range' 1 17).findSome? ((basin m e).neighbour? (basin m e).leadingPlace) with
    | none =>
      have last := List.findSome?_eq_none_iff.mp found 17 (by decide)
      have seventeen := @neighbour?_seventeen m e short filled
      rw [last] at seventeen
      cases seventeen
    | some d =>
      obtain ⟨count, _, chosen⟩ := List.exists_of_findSome?_eq_some found
      exact Basin.contains_of_neighbour? chosen
  exact ⟨near.digits_pos filled, near⟩

end Basins

end Binary64

end CloneScan
