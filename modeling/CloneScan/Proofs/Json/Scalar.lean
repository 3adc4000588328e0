import CloneScan.Json.Reader
import CloneScan.Json.Writer
import CloneScan.Proofs.Location
import Mathlib.Data.List.Basic
import Mathlib.Data.List.TakeWhile

/-! Numbers and words, written and read back. A reader of a scalar stops where a comma or a line end
stops it, so a scalar that is read when it stands alone is read in its place, too. -/
namespace CloneScan

namespace Numeral

theorem isDigit_digit : ∀ d < 10, (digit d).isDigit = true := by decide

theorem isDigit_of_mem_ofNat {n : Nat} {c : Char} (member : c ∈ ofNat n) : c.isDigit = true := by
  obtain ⟨d, small, rfl⟩ := mem_ofNat n c member
  exact isDigit_digit d small

/-- Only zero starts with a zero. -/
theorem head?_ofNat {n : Nat} (positive : 0 < n) : (ofNat n).head? ≠ some '0' := by
  fun_induction ofNat n with
  | case1 n small =>
    have other : ∀ d < 10, 0 < d → digit d ≠ '0' := by decide
    simpa using other n small positive
  | case2 n large ih =>
    obtain ⟨first, more, split⟩ := List.exists_cons_of_ne_nil (ofNat_ne_nil (n / 10))
    rw [split] at ih ⊢
    exact ih (by omega)

theorem length_ofNat_le {n k : Nat} (filled : 0 < k) (small : n < Nat.pow 10 k) :
    (ofNat n).length ≤ k := by
  fun_induction ofNat n generalizing k with
  | case1 n _ => exact filled
  | case2 n large ih =>
    obtain ⟨j, rfl⟩ := Nat.exists_eq_add_one.mpr filled
    have tenth : n / 10 < 10 ^ j := Nat.div_lt_of_lt_mul (Nat.pow_succ' ▸ small)
    have longer : 0 < j := by
      refine Nat.pos_of_ne_zero fun one => ?_
      rw [one, Nat.pow_zero] at tenth
      omega
    have shorter := ih longer tenth
    rw [List.length_append, List.length_singleton]
    omega

theorem length_ofNat_writable {i : Int} (writable : isWritable i = true) :
    (ofNat i.natAbs).length ≤ longest :=
  length_ofNat_le (by decide) (of_decide_eq_true writable)

end Numeral

namespace Json

/-- Nothing, or a character that no scalar goes on with. -/
def Breaks (rest : List Char) : Prop := ∀ c ∈ rest.head?, c = ',' ∨ c = '\n'

theorem Breaks.cases {rest : List Char} (breaks : Breaks rest) :
    rest = [] ∨ ∃ more, rest = ',' :: more ∨ rest = '\n' :: more := by
  cases rest with
  | nil => exact .inl rfl
  | cons c more =>
    right
    rcases breaks c rfl with rfl | rfl
    · exact ⟨more, .inl rfl⟩
    · exact ⟨more, .inr rfl⟩

theorem takeWhile_breaks {rest : List Char} (breaks : Breaks rest) (s : List Char) :
    (s ++ rest).takeWhile Char.isDigit = s.takeWhile Char.isDigit ∧
      (s ++ rest).dropWhile Char.isDigit = s.dropWhile Char.isDigit ++ rest := by
  induction s with
  | nil => rcases breaks.cases with rfl | ⟨more, rfl | rfl⟩ <;> simp +decide
  | cons c s ih => cases digit : c.isDigit <;> simp [digit, ih]

theorem wholePart?_nonzero {s : List Char} (nonzero : s.head? ≠ some '0') :
    wholePart? s = if s.takeWhile Char.isDigit = [] then none
      else some (s.takeWhile Char.isDigit, s.dropWhile Char.isDigit) := by
  unfold wholePart?
  split
  next more => exact absurd rfl nonzero
  next => split <;> simp_all

theorem wholePart?_breaks {s rest ds left : List Char} (breaks : Breaks rest)
    (read : wholePart? s = some (ds, left)) : wholePart? (s ++ rest) = some (ds, left ++ rest) := by
  by_cases zero : s.head? = some '0'
  · obtain ⟨more, rfl⟩ := List.head?_eq_some_iff.mp zero
    rw [wholePart?, Option.some.injEq, Prod.mk.injEq] at read
    rw [← read.1, ← read.2]
    rfl
  · obtain ⟨taken, dropped⟩ := takeWhile_breaks breaks s
    rw [wholePart?_nonzero zero] at read
    split at read
    next => cases read
    next filled =>
      have longer : (s ++ rest).head? ≠ some '0' := by
        cases s with
        | nil => exact absurd rfl filled
        | cons c s => exact zero
      rw [Option.some.injEq, Prod.mk.injEq] at read
      rw [wholePart?_nonzero longer, taken, dropped, if_neg filled, read.1, read.2]

theorem fraction_pointless {s : List Char} (pointless : s.head? ≠ some '.') :
    fraction s = ([], s) := by
  unfold fraction
  split
  next more => exact absurd rfl pointless
  next => rfl

theorem fraction_breaks {rest : List Char} (breaks : Breaks rest) (s : List Char) :
    fraction (s ++ rest) = ((fraction s).1, (fraction s).2 ++ rest) := by
  by_cases point : s.head? = some '.'
  · obtain ⟨more, rfl⟩ := List.head?_eq_some_iff.mp point
    obtain ⟨taken, dropped⟩ := takeWhile_breaks breaks more
    simp only [fraction, List.cons_append, taken, dropped]
    split <;> rfl
  · cases s with
    | nil => rcases breaks.cases with rfl | ⟨more, rfl | rfl⟩ <;> rfl
    | cons c s =>
      have longer : (c :: s ++ rest).head? ≠ some '.' := point
      rw [fraction_pointless point, fraction_pointless longer]

theorem powerSign_breaks {rest : List Char} (breaks : Breaks rest) (s : List Char) :
    powerSign (s ++ rest) = ((powerSign s).1, (powerSign s).2 ++ rest) := by
  cases s with
  | nil => rcases breaks.cases with rfl | ⟨more, rfl | rfl⟩ <;> rfl
  | cons c s =>
    by_cases minus : c = '-'
    · subst c; rfl
    · by_cases plus : c = '+'
      · subst c; rfl
      · simp [powerSign, minus, plus]

theorem exponent?_breaks {rest : List Char} (breaks : Breaks rest) (s : List Char) :
    exponent? (s ++ rest) = ((exponent? s).1, (exponent? s).2 ++ rest) := by
  cases s with
  | nil => rcases breaks.cases with rfl | ⟨more, rfl | rfl⟩ <;> rfl
  | cons e s =>
    obtain ⟨taken, dropped⟩ := takeWhile_breaks breaks (powerSign s).2
    simp only [exponent?, List.cons_append, powerSign_breaks breaks, taken, dropped]
    split
    · split <;> rfl
    · rfl

theorem minusSign_breaks {rest : List Char} (breaks : Breaks rest) (s : List Char) :
    minusSign (s ++ rest) = ((minusSign s).1, (minusSign s).2 ++ rest) := by
  cases s with
  | nil => rcases breaks.cases with rfl | ⟨more, rfl | rfl⟩ <;> rfl
  | cons c s =>
    by_cases minus : c = '-'
    · subst c; rfl
    · simp [minusSign, minus]

theorem readUnsigned_breaks {negative : Bool} {s rest left : List Char} {v : Value}
    (breaks : Breaks rest) (read : readUnsigned negative s = .ok (v, left)) :
    readUnsigned negative (s ++ rest) = .ok (v, left ++ rest) := by
  rw [readUnsigned] at read
  split at read
  next => cases read
  next whole more digits =>
    rw [readUnsigned, wholePart?_breaks breaks digits]
    simp only [fraction_breaks breaks, exponent?_breaks breaks]
    dsimp only at read
    split at read
    next w value =>
      obtain ⟨rfl, rfl⟩ := Prod.mk.inj (Except.ok.inj read)
      rfl
    next => cases read

theorem readNumber_breaks {s rest left : List Char} {v : Value} (breaks : Breaks rest)
    (read : readNumber s = .ok (v, left)) : readNumber (s ++ rest) = .ok (v, left ++ rest) := by
  rw [readNumber] at read ⊢
  rw [minusSign_breaks breaks]
  cases unsigned : readUnsigned (minusSign s).1 (minusSign s).2 with
  | error problem =>
    rw [unsigned] at read
    cases read
  | ok found =>
    rw [unsigned] at read
    rw [Except.ok.inj read] at unsigned
    simp only [readUnsigned_breaks breaks unsigned]
    rfl

/-- No word has a character in it that ends a scalar. -/
theorem words_unbroken : ∀ w ∈ words, ',' ∉ w.1.toList ∧ '\n' ∉ w.1.toList := by
  decide

theorem isPrefixOf?_breaks {rest : List Char} (breaks : Breaks rest) {word : List Char}
    (unbroken : ',' ∉ word ∧ '\n' ∉ word) (s : List Char) :
    word.isPrefixOf? (s ++ rest) = (word.isPrefixOf? s).map (· ++ rest) := by
  induction word generalizing s with
  | nil => rfl
  | cons w word ih =>
    rw [List.mem_cons, List.mem_cons, not_or, not_or] at unbroken
    obtain ⟨⟨comma, deeperComma⟩, newline, deeperNewline⟩ := unbroken
    cases s with
    | nil =>
      rcases breaks.cases with rfl | ⟨more, rfl | rfl⟩
      · rfl
      · simp [List.isPrefixOf?, Ne.symm comma]
      · simp [List.isPrefixOf?, Ne.symm newline]
    | cons c s =>
      cases same : w == c with
      | true => simpa [List.isPrefixOf?, same] using ih ⟨deeperComma, deeperNewline⟩ s
      | false => simp [List.isPrefixOf?, same]

theorem readWord?_breaks {rest : List Char} (breaks : Breaks rest) (s : List Char) :
    readWord? (s ++ rest) = (readWord? s).map fun (v, left) => (v, left ++ rest) := by
  have unbroken := words_unbroken
  unfold readWord?
  generalize words = ws at unbroken ⊢
  induction ws with
  | nil => rfl
  | cons w ws ih =>
    have first := isPrefixOf?_breaks breaks (unbroken w List.mem_cons_self) s
    have others := ih fun w member => unbroken w (List.mem_cons_of_mem _ member)
    cases found : w.1.toList.isPrefixOf? s with
    | none => simpa [first, found] using others
    | some left => simp [first, found]

/-- A scalar is read as if it stood alone. -/
theorem readScalar_breaks {s rest left : List Char} {v : Value} (breaks : Breaks rest)
    (read : readScalar s = .ok (v, left)) : readScalar (s ++ rest) = .ok (v, left ++ rest) := by
  rw [readScalar] at read ⊢
  rw [readWord?_breaks breaks]
  cases word : readWord? s with
  | none =>
    rw [word] at read
    exact readNumber_breaks breaks read
  | some found =>
    rw [word] at read
    obtain ⟨rfl, rfl⟩ := Prod.mk.inj (Except.ok.inj read)
    rfl

/-- Digits and signs do not make a word. -/
theorem readWord?_eq_none {s : List Char} (plain : ∀ c ∈ s, c.isDigit = true ∨ c = '-') :
    readWord? s = none := by
  have lettered : words.all (fun w => w.1.toList.any fun c => !(c.isDigit || c == '-')) = true := by
    decide
  refine List.findSome?_eq_none_iff.mpr fun w member => ?_
  obtain ⟨c, inside, letter⟩ := List.any_eq_true.mp (List.all_eq_true.mp lettered w member)
  refine Option.map_eq_none_iff.mpr (Option.eq_none_iff_forall_not_mem.mpr fun left found => ?_)
  have split := List.isPrefixOf?_eq_some_iff_append_eq.mp found
  have either : (c.isDigit || c == '-') = true := by
    simpa using plain c (split ▸ List.mem_append_left left inside)
  rw [either] at letter
  cases letter

theorem wholePart?_ofNat (n : Nat) :
    wholePart? (Numeral.ofNat n) = some (Numeral.ofNat n, []) := by
  have digits : ∀ c ∈ Numeral.ofNat n, c.isDigit = true := fun _ => Numeral.isDigit_of_mem_ofNat
  rcases Nat.eq_zero_or_pos n with rfl | positive
  · rw [Numeral.ofNat]
    rfl
  · rw [wholePart?_nonzero (Numeral.head?_ofNat positive), List.takeWhile_eq_self_iff.mpr digits,
      List.dropWhile_eq_nil_iff.mpr digits, if_neg (Numeral.ofNat_ne_nil n)]

theorem readUnsigned_ofNat (negative : Bool) {n : Nat}
    (short : (Numeral.ofNat n).length ≤ Numeral.longest) :
    readUnsigned negative (Numeral.ofNat n) = .ok (.int (if negative then -n else n), []) := by
  simp [readUnsigned, wholePart?_ofNat, fraction, exponent?, numberValue, Nat.not_lt.mpr short]

theorem minusSign_ofNat (n : Nat) : minusSign (Numeral.ofNat n) = (false, Numeral.ofNat n) := by
  unfold minusSign
  split
  next more same => exact absurd (same ▸ List.mem_cons_self) (Numeral.minus_not_mem_ofNat n)
  next => rfl

/-- A whole number that is not too long is read back. -/
theorem readScalar_ofInt {i : Int} (writable : Numeral.isWritable i = true) :
    readScalar (Numeral.ofInt i) = .ok (.int i, []) := by
  have short := Numeral.length_ofNat_writable writable
  have digits (n : Nat) : ∀ c ∈ Numeral.ofNat n, c.isDigit = true ∨ c = '-' :=
    fun c member => .inl (Numeral.isDigit_of_mem_ofNat member)
  cases i with
  | ofNat n =>
    have unsigned := @readUnsigned_ofNat false n short
    rw [Numeral.ofInt, readScalar, readWord?_eq_none (digits n), readNumber, minusSign_ofNat]
    simp only [unsigned]
    rfl
  | negSucc n =>
    have plain : ∀ c ∈ '-' :: Numeral.ofNat (n + 1), c.isDigit = true ∨ c = '-' := by
      intro c member
      rcases List.mem_cons.mp member with sign | digit
      · exact .inr sign
      · exact digits (n + 1) c digit
    have unsigned := @readUnsigned_ofNat true (n + 1) short
    rw [Numeral.ofInt, readScalar, readWord?_eq_none plain, readNumber, minusSign]
    simp only [unsigned]
    rfl

def isScalarChar (c : Char) : Bool := c.isAlphanum || c == '-' || c == '+' || c == '.'

theorem isScalarChar_of_mem_ofNat {n : Nat} {c : Char} (member : c ∈ Numeral.ofNat n) :
    isScalarChar c = true := by
  simp [isScalarChar, Char.isAlphanum, Numeral.isDigit_of_mem_ofNat member]

theorem isScalarChar_of_mem_ofInt (i : Int) : ∀ c ∈ Numeral.ofInt i, isScalarChar c = true := by
  intro c member
  cases i with
  | ofNat n => exact isScalarChar_of_mem_ofNat member
  | negSucc n =>
    rcases List.mem_cons.mp member with rfl | digit
    · rfl
    · exact isScalarChar_of_mem_ofNat digit

theorem isScalarChar_of_mem_replicate {n : Nat} {c : Char} (member : c ∈ List.replicate n '0') :
    isScalarChar c = true := by
  rw [List.eq_of_mem_replicate member]
  rfl

theorem isScalarChar_of_mem_positional {ds : List Char} (point : Int)
    (digits : ∀ c ∈ ds, isScalarChar c = true) :
    ∀ c ∈ Binary64.positional ds point, isScalarChar c = true := by
  fun_cases Binary64.positional ds point with
  | case1 small =>
    intro c member
    simp only [List.mem_append] at member
    rcases member with (front | zeros) | inside
    · exact List.all_eq_true.mp (by decide : ['0', '.'].all isScalarChar = true) c front
    · exact isScalarChar_of_mem_replicate zeros
    · exact digits c inside
  | case2 large whole rest =>
    intro c member
    simp only [List.mem_append, List.mem_singleton] at member
    rcases member with (before | rfl) | after
    · rcases List.mem_append.mp before with inside | zeros
      · exact digits c (List.mem_of_mem_take inside)
      · exact isScalarChar_of_mem_replicate zeros
    · rfl
    · split at after
      · rw [List.mem_singleton.mp after]
        rfl
      · exact digits c (List.mem_of_mem_drop after)

theorem isScalarChar_of_mem_scientific {ds : List Char} (point : Int)
    (digits : ∀ c ∈ ds, isScalarChar c = true) :
    ∀ c ∈ Binary64.scientific ds point, isScalarChar c = true := by
  intro c member
  simp only [Binary64.scientific, Numeral.padded, List.mem_append] at member
  rcases member with ((first | places) | sign) | zeros | exponent
  · exact digits c (List.mem_of_mem_take first)
  · split at places
    · cases places
    · rcases List.mem_cons.mp places with rfl | inside
      · rfl
      · exact digits c (List.mem_of_mem_drop inside)
  · rcases List.mem_cons.mp sign with rfl | sign
    · rfl
    · rw [List.mem_singleton.mp sign]
      split <;> rfl
  · exact isScalarChar_of_mem_replicate zeros
  · exact isScalarChar_of_mem_ofNat exponent

theorem isScalarChar_of_mem_magnitude (how : Binary64.Notation) (m : Nat) (exponent : Int) :
    ∀ c ∈ Binary64.magnitude how m exponent, isScalarChar c = true := by
  fun_cases Binary64.magnitude how m exponent with
  | case1 => exact List.all_eq_true.mp (by decide : ['0', '.', '0'].all isScalarChar = true)
  | case2 _ d ds point _ =>
    exact isScalarChar_of_mem_positional point fun _ => isScalarChar_of_mem_ofNat
  | case3 _ d ds point _ =>
    exact isScalarChar_of_mem_scientific point fun _ => isScalarChar_of_mem_ofNat

/-- Whatever its size, a binary number is written in the characters of numbers and words. -/
theorem isScalarChar_of_mem_chars (x : Binary64) :
    ∀ c ∈ x.chars floatNotation, isScalarChar c = true := by
  have sign (negative : Bool) :
      ∀ c ∈ (if negative then ['-'] else []), isScalarChar c = true := by
    refine List.all_eq_true.mp ?_
    cases negative <;> decide
  cases x with
  | finite negative m exponent =>
    intro c member
    rcases List.mem_append.mp member with front | inside
    · exact sign negative c front
    · exact isScalarChar_of_mem_magnitude floatNotation m exponent c inside
  | infinite negative =>
    intro c member
    rcases List.mem_append.mp member with front | inside
    · exact sign negative c front
    · exact List.all_eq_true.mp (by decide : "Infinity".toList.all isScalarChar = true) c inside
  | undefined =>
    exact List.all_eq_true.mp (by decide : "NaN".toList.all isScalarChar = true)

/-- A binary number that is read from what is written of it. -/
def Lossless (x : Binary64) : Prop := readScalar (x.chars floatNotation) = .ok (.float x, [])

end Json

end CloneScan
