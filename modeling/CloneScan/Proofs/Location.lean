import CloneScan.Block

/-! Places as texts. A numeral holds no colon, so the last colon of a place ends the path, whatever
the path is made of, and a place tells its file and its line. Where two lines stand behind the colon,
the first hyphen that is no sign parts them. -/
namespace CloneScan

namespace Numeral

theorem mem_ofNat (n : Nat) : ∀ c ∈ ofNat n, ∃ d < 10, c = digit d := by
  fun_induction ofNat n with
  | case1 n small =>
    intro c member
    exact ⟨n, small, List.mem_singleton.mp member⟩
  | case2 n large ih =>
    intro c member
    rcases List.mem_append.mp member with front | last
    · exact ih c front
    · exact ⟨n % 10, Nat.mod_lt _ (by decide), List.mem_singleton.mp last⟩

theorem digit_ne_colon : ∀ d < 10, digit d ≠ ':' := by decide

theorem digit_ne_minus : ∀ d < 10, digit d ≠ '-' := by decide

theorem minus_not_mem_ofNat (n : Nat) : '-' ∉ ofNat n := by
  intro member
  obtain ⟨d, small, same⟩ := mem_ofNat n _ member
  exact digit_ne_minus d small same.symm

theorem colon_not_mem_ofNat (n : Nat) : ':' ∉ ofNat n := by
  intro member
  obtain ⟨d, small, same⟩ := mem_ofNat n _ member
  exact digit_ne_colon d small same.symm

theorem colon_not_mem_ofInt (i : Int) : ':' ∉ ofInt i := by
  cases i with
  | ofNat n => exact colon_not_mem_ofNat n
  | negSucc n => simpa [ofInt] using colon_not_mem_ofNat (n + 1)

theorem ofNat_ne_nil (n : Nat) : ofNat n ≠ [] := by
  fun_cases ofNat n <;> simp

end Numeral

/-- The last separator of a text is found from its end. -/
theorem append_separator_injective {sep : Char} {a b c d : List Char} (hb : sep ∉ b) (hd : sep ∉ d)
    (same : a ++ sep :: b = c ++ sep :: d) : a = c ∧ b = d := by
  rcases List.append_eq_append_iff.mp same with ⟨more, left, right⟩ | ⟨more, left, right⟩
  · cases more with
    | nil => exact ⟨by simpa using left.symm, (List.cons.inj right).2⟩
    | cons x more =>
      have tail := (List.cons.inj right).2
      exact absurd (tail ▸ List.mem_append_right more List.mem_cons_self) hb
  · cases more with
    | nil => exact ⟨by simpa using left, ((List.cons.inj right).2).symm⟩
    | cons x more =>
      have tail := (List.cons.inj right).2
      exact absurd (tail ▸ List.mem_append_right more List.mem_cons_self) hd

/-- The first separator of a text is found from its front. -/
theorem append_first_separator_injective {sep : Char} {a b c d : List Char} (ha : sep ∉ a)
    (hc : sep ∉ c) (same : a ++ sep :: b = c ++ sep :: d) : a = c ∧ b = d := by
  have turned : b.reverse ++ sep :: a.reverse = d.reverse ++ sep :: c.reverse := by
    simpa using congrArg List.reverse same
  obtain ⟨back, front⟩ := append_separator_injective (mt List.mem_reverse.mp ha)
    (mt List.mem_reverse.mp hc) turned
  exact ⟨List.reverse_inj.mp front, List.reverse_inj.mp back⟩

namespace Numeral

theorem ofNat_minus_injective {a b : List Char} (same : ofNat m ++ '-' :: a = ofNat n ++ '-' :: b) :
    m = n ∧ a = b := by
  obtain ⟨digits, rest⟩ :=
    append_first_separator_injective (minus_not_mem_ofNat m) (minus_not_mem_ofNat n) same
  exact ⟨ofNat_injective digits, rest⟩

/-- In front of the first hyphen there is a digit. -/
theorem ofNat_minus_ne (n : Nat) (a b : List Char) : ofNat n ++ '-' :: a ≠ '-' :: b := by
  intro same
  obtain ⟨empty, _⟩ :=
    append_first_separator_injective (c := []) (minus_not_mem_ofNat n) List.not_mem_nil same
  exact ofNat_ne_nil n empty

/-- A number with a hyphen behind it is read off the front: a hyphen that comes first is its sign, and
the next one ends it. -/
theorem ofInt_minus_injective {a b : List Char} (same : ofInt i ++ '-' :: a = ofInt j ++ '-' :: b) :
    i = j ∧ a = b := by
  cases i with
  | ofNat m =>
    cases j with
    | ofNat n =>
      obtain ⟨value, rest⟩ := ofNat_minus_injective same
      exact ⟨congrArg Int.ofNat value, rest⟩
    | negSucc n => exact absurd same (ofNat_minus_ne m _ _)
  | negSucc m =>
    cases j with
    | ofNat n => exact absurd same.symm (ofNat_minus_ne n _ _)
    | negSucc n =>
      obtain ⟨value, rest⟩ := ofNat_minus_injective (List.cons.inj same).2
      exact ⟨congrArg Int.negSucc (by omega), rest⟩

theorem ofInt_injective (same : ofInt i = ofInt j) : i = j := by
  have ended : ofInt i ++ ['-'] = ofInt j ++ ['-'] := by rw [same]
  exact (ofInt_minus_injective ended).1

end Numeral

theorem Block.locationKey_toList (b : Block) :
    b.locationKey.toList = b.file.toList ++ ':' :: Numeral.ofInt b.startLine := by
  simp [Block.locationKey, Numeral.text]

/-- Blocks have one place exactly if they have one file and one first line. -/
theorem Block.locationKey_eq_iff (b c : Block) :
    b.locationKey = c.locationKey ↔ b.file = c.file ∧ b.startLine = c.startLine := by
  constructor
  · intro same
    have texts := congrArg String.toList same
    rw [Block.locationKey_toList, Block.locationKey_toList] at texts
    have parts := append_separator_injective (Numeral.colon_not_mem_ofInt _)
      (Numeral.colon_not_mem_ofInt _) texts
    exact ⟨String.toList_inj.mp parts.1, Numeral.ofInt_injective parts.2⟩
  · rintro ⟨file, line⟩
    rw [Block.locationKey, Block.locationKey, file, line]

theorem Block.location_toList (b : Block) :
    b.location.toList =
      b.file.toList ++ ':' :: (Numeral.ofInt b.startLine ++ '-' :: Numeral.ofInt b.endLine) := by
  simp [Block.location, Numeral.text]

/-- Blocks have one location exactly if they have one file and the same lines. -/
theorem Block.location_eq_iff (b c : Block) :
    b.location = c.location ↔
      b.file = c.file ∧ b.startLine = c.startLine ∧ b.endLine = c.endLine := by
  constructor
  · intro same
    have lines (i j : Int) : ':' ∉ Numeral.ofInt i ++ '-' :: Numeral.ofInt j := by
      simp [Numeral.colon_not_mem_ofInt]
    have texts := congrArg String.toList same
    rw [Block.location_toList, Block.location_toList] at texts
    obtain ⟨file, rest⟩ := append_separator_injective (lines _ _) (lines _ _) texts
    obtain ⟨first, last⟩ := Numeral.ofInt_minus_injective rest
    exact ⟨String.toList_inj.mp file, first, Numeral.ofInt_injective last⟩
  · rintro ⟨file, first, last⟩
    rw [Block.location, Block.location, file, first, last]

end CloneScan
