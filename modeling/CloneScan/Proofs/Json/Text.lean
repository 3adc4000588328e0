import CloneScan.Json.Reader
import CloneScan.Json.Writer

/-! Quoted text, written and read back. Every character is read from its escape, whatever follows, so
a whole text is read up to the quote that closes it. -/
namespace CloneScan.Json

/-- The three ways to write a character: after a backslash, by its number, or as it is. -/
theorem escape_forms (c : Char) :
    (∃ e, escape c = ['\\', e] ∧ simpleEscape? e = some c ∧ e ≠ 'u') ∨
    (escape c = ['\\', 'u'] ++ Text.hex 4 c.toNat ∧ c.toNat < 0x20) ∨
    (escape c = [c] ∧ c ≠ '"' ∧ c ≠ '\\' ∧ 0x20 ≤ c.toNat) := by
  by_cases named : c ∈ ['"', '\\', '\n', '\r', '\t', '\x08', '\x0c']
  · left
    simp only [List.mem_cons, List.not_mem_nil, or_false] at named
    rcases named with rfl | rfl | rfl | rfl | rfl | rfl | rfl <;>
      exact ⟨_, rfl, rfl, by decide⟩
  right
  simp only [List.mem_cons, List.not_mem_nil, or_false, not_or] at named
  have plain : escape c = if c.toNat < 0x20 then ['\\', 'u'] ++ Text.hex 4 c.toNat else [c] := by
    simp [escape, named]
  by_cases control : c.toNat < 0x20
  · exact .inl ⟨by rw [plain, if_pos control], control⟩
  · exact .inr ⟨by rw [plain, if_neg control], named.1, named.2.1, Nat.le_of_not_lt control⟩

theorem hex_control : ∀ n < 0x20,
    Text.hex 4 n = ['0', '0', Text.hexDigit (n / 16), Text.hexDigit (n % 16)] ∧
      hexValue4? '0' '0' (Text.hexDigit (n / 16)) (Text.hexDigit (n % 16)) = some n ∧
      takeUnit none n = ([Char.ofNat n], none) := by
  decide

/-- A character is read from its escape if something follows. -/
theorem readText_escape (opening : List Char) (c : Char) {more : List Char} (filled : more ≠ []) :
    readText opening none (escape c ++ more) = prepend [c] (readText opening none more) := by
  rcases escape_forms c with ⟨e, form, simple, other⟩ | ⟨form, control⟩ |
    ⟨form, quote, backslash, printed⟩
  · rw [form, List.cons_append, List.singleton_append, readText.eq_def]
    simp only [if_neg other, simple]
    rfl
  · obtain ⟨digits, value, taken⟩ := hex_control c.toNat control
    rw [form, digits, readText.eq_def]
    have follows : more.isEmpty = false := by simpa using filled
    simp [follows, value, taken]
  · rw [form, List.singleton_append, readText.eq_def]
    simp only [if_neg quote, if_neg backslash, if_neg (Nat.not_lt.mpr printed)]
    rfl

/-- A written text is read up to its closing quote. -/
theorem readText_flatMap_escape (opening s rest : List Char) :
    readText opening none (s.flatMap escape ++ '"' :: rest) = .ok (s, rest) := by
  induction s with
  | nil => rw [List.flatMap_nil, List.nil_append, readText.eq_def]; rfl
  | cons c s ih =>
    rw [List.flatMap_cons, List.append_assoc, readText_escape opening c (by simp), ih]
    rfl

theorem carriageReturn_not_mem_escape (c : Char) : '\r' ∉ escape c := by
  rcases escape_forms c with ⟨e, form, simple, other⟩ | ⟨form, control⟩ | ⟨form, _, _, printed⟩
  · rw [form]
    intro member
    rcases List.mem_cons.mp member with backslash | same
    · exact absurd backslash (by decide)
    · rw [← List.mem_singleton.mp same] at simple
      cases simple
  · have none : ∀ n < 0x20, '\r' ∉ ['\\', 'u'] ++ Text.hex 4 n := by decide
    rw [form]
    exact none c.toNat control
  · rw [form]
    intro member
    rw [← List.mem_singleton.mp member] at printed
    exact absurd printed (by decide)

theorem carriageReturn_not_mem_writeText (s : String) : '\r' ∉ writeText s := by
  intro member
  simp only [writeText, List.mem_append, List.mem_cons, List.mem_flatMap, List.not_mem_nil,
    or_false] at member
  rcases member with (quote | ⟨c, _, inside⟩) | quote
  · exact absurd quote (by decide)
  · exact carriageReturn_not_mem_escape c inside
  · exact absurd quote (by decide)

end CloneScan.Json
