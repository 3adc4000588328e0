/-! Division to the nearest whole number, where a half goes to the even neighbour. -/
namespace CloneScan.Number

def roundDiv (n d : Nat) : Nat :=
  if 2 * (n % d) < d then n / d
  else if d < 2 * (n % d) then n / d + 1
  else n / d + n / d % 2

/-- The result is at most half a unit away, said without fractions. -/
theorem roundDiv_near (n d : Nat) (h : 0 < d) :
    2 * n ≤ (2 * roundDiv n d + 1) * d ∧ 2 * roundDiv n d * d ≤ 2 * n + d := by
  have split := Nat.div_add_mod n d
  have lt := Nat.mod_lt n h
  have even : n / d % 2 = 0 ∨ n / d % 2 = 1 := by omega
  unfold roundDiv
  have e : n = n / d * d + n % d := by rw [Nat.mul_comm]; exact split.symm
  generalize n / d = q at *
  generalize n % d = r at *
  subst e
  split
  · constructor <;> simp [Nat.add_mul, Nat.mul_assoc] <;> omega
  · split
    · constructor <;> simp [Nat.add_mul, Nat.mul_add, Nat.mul_assoc] <;> omega
    · rcases even with z | o
      · rw [z]; constructor <;> simp [Nat.add_mul, Nat.mul_assoc] <;> omega
      · rw [o]; constructor <;> simp [Nat.add_mul, Nat.mul_add, Nat.mul_assoc] <;> omega

end CloneScan.Number
