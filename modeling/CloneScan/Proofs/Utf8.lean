import CloneScan.Text.Utf8

/-! Octets and back. The decoder reads the octets of one character as that character, in whatever
text they stand, so every text is recovered from its octets. It reads no other octets: a character
that it finds is made of the very octets that it was found in. -/
namespace CloneScan.Text.Utf8

theorem toNat_octet (n : Nat) (small : n < 256) : (UInt8.ofNat n).toNat = n := by
  rw [UInt8.toNat_ofNat']
  exact Nat.mod_eq_of_lt small

theorem toNat_continuation (n : Nat) : (continuation n).toNat = 0x80 + n % 64 :=
  toNat_octet _ (by have := Nat.mod_lt n (by decide : 0 < 64); omega)

theorem toNat_char (c : Char) :
    c.toNat < 0xD800 ∨ (0xDFFF < c.toNat ∧ c.toNat < 0x110000) := c.valid

/-- An octet in the range that a pending character allows, and not the last of it. -/
theorem decodeFrom_more (position : Nat) (p : Pending) (n : Nat) (rest : List UInt8)
    (low : p.least ≤ 0x80 + n % 64) (high : 0x80 + n % 64 ≤ p.greatest) (more : 1 < p.due) :
    decodeFrom position (some p) (continuation n :: rest) =
      decodeFrom (position + 1)
        (some ⟨p.due - 1, p.taken + 1, p.first, p.bits * 64 + n % 64, 0x80, 0xBF⟩) rest := by
  rw [decodeFrom]
  simp only [toNat_continuation]
  rw [if_pos ⟨low, high⟩, if_neg (by omega), Nat.add_sub_cancel_left]

theorem decodeFrom_last (position : Nat) (p : Pending) (n : Nat) (rest : List UInt8)
    (low : p.least ≤ 0x80 + n % 64) (high : 0x80 + n % 64 ≤ p.greatest) (last : p.due = 1) :
    decodeFrom position (some p) (continuation n :: rest) =
      (decodeFrom (position + 1) none rest).map (Char.ofNat (p.bits * 64 + n % 64) :: ·) := by
  rw [decodeFrom]
  simp only [toNat_continuation]
  rw [if_pos ⟨low, high⟩, if_pos (by omega), Nat.add_sub_cancel_left]

theorem decodeFrom_lead (position n : Nat) (l : Lead) (rest : List UInt8)
    (lead : lead? (UInt8.ofNat n) = some l) (longer : l.following ≠ 0) :
    decodeFrom position none (UInt8.ofNat n :: rest) =
      decodeFrom (position + 1) (some (l.pending (UInt8.ofNat n))) rest := by
  rw [decodeFrom]
  simp only [lead, if_neg longer]

theorem lead?_one (n : Nat) (small : n < 0x80) :
    lead? (UInt8.ofNat n) = some ⟨0, n, 0x80, 0xBF⟩ := by
  simp only [lead?, toNat_octet n (by omega)]
  rw [if_pos small]

theorem lead?_two (b : Nat) (low : 2 ≤ b) (high : b < 0x20) :
    lead? (UInt8.ofNat (0xC0 + b)) = some ⟨1, b, 0x80, 0xBF⟩ := by
  simp only [lead?, toNat_octet (0xC0 + b) (by omega)]
  rw [if_neg (by omega), if_neg (by omega), if_pos (by omega), Nat.add_sub_cancel_left]

theorem lead?_three (b : Nat) (high : b < 0x10) :
    lead? (UInt8.ofNat (0xE0 + b)) =
      some ⟨2, b, if b = 0 then 0xA0 else 0x80, if b = 13 then 0x9F else 0xBF⟩ := by
  have least : (0xE0 + b = 0xE0) = (b = 0) := by simp
  have greatest : (0xE0 + b = 0xED) = (b = 13) := by simp; omega
  simp only [lead?, toNat_octet (0xE0 + b) (by omega), least, greatest]
  rw [if_neg (by omega), if_neg (by omega), if_neg (by omega), if_pos (by omega),
    Nat.add_sub_cancel_left]

theorem lead?_four (b : Nat) (high : b < 5) :
    lead? (UInt8.ofNat (0xF0 + b)) =
      some ⟨3, b, if b = 0 then 0x90 else 0x80, if b = 4 then 0x8F else 0xBF⟩ := by
  have least : (0xF0 + b = 0xF0) = (b = 0) := by simp
  have greatest : (0xF0 + b = 0xF4) = (b = 4) := by simp; omega
  simp only [lead?, toNat_octet (0xF0 + b) (by omega), least, greatest]
  rw [if_neg (by omega), if_neg (by omega), if_neg (by omega), if_neg (by omega),
    if_pos (by omega), Nat.add_sub_cancel_left]

/-- The octets of a character are read as the character. -/
theorem decodeFrom_encodeChar (position : Nat) (c : Char) (rest : List UInt8) :
    decodeFrom position none (encodeChar c ++ rest) =
      (decodeFrom (position + (encodeChar c).length) none rest).map (c :: ·) := by
  have valid := toNat_char c
  have recovered (n : Nat) (same : n = c.toNat) : Char.ofNat n = c := by
    rw [same, Char.ofNat_toNat]
  simp only [encodeChar]
  split
  next one =>
    rw [List.singleton_append, decodeFrom]
    simp only [lead?_one _ one, if_true, List.length_singleton]
    rw [recovered _ rfl]
  next =>
    split
    next two =>
      have lead := lead?_two (c.toNat / 64) (by omega) (by omega)
      rw [List.cons_append, decodeFrom_lead _ _ _ _ lead (by simp), List.singleton_append,
        decodeFrom_last _ _ _ _ (by simp [Lead.pending])
          (by simp only [Lead.pending]; omega) rfl, recovered]
      · rfl
      · simp only [Lead.pending]; omega
    next =>
      split
      next three =>
        have lead := lead?_three (c.toNat / 4096) (by omega)
        rw [List.cons_append, decodeFrom_lead _ _ _ _ lead (by simp), List.cons_append,
          decodeFrom_more, List.singleton_append, decodeFrom_last, recovered]
        · rfl
        · simp only [Lead.pending]; omega
        · simp
        · simp only; omega
        · rfl
        · simp only [Lead.pending]; split <;> omega
        · simp only [Lead.pending]; split <;> omega
        · simp [Lead.pending]
      next =>
        have lead := lead?_four (c.toNat / 262144) (by omega)
        rw [List.cons_append, decodeFrom_lead _ _ _ _ lead (by simp), List.cons_append,
          decodeFrom_more, List.cons_append, decodeFrom_more, List.singleton_append,
          decodeFrom_last, recovered]
        · rfl
        · simp only [Lead.pending]; omega
        · simp
        · simp only; omega
        · rfl
        · simp
        · simp only; omega
        · simp [Lead.pending]
        · simp only [Lead.pending]; split <;> omega
        · simp only [Lead.pending]; split <;> omega
        · simp [Lead.pending]

theorem decodeFrom_encode (position : Nat) (s : List Char) :
    decodeFrom position none (s.flatMap encodeChar) = .ok s := by
  induction s generalizing position with
  | nil => rfl
  | cons c s ih => rw [List.flatMap_cons, decodeFrom_encodeChar, ih]; rfl

/-- Every text is recovered from its octets. -/
theorem decode_encode (s : String) : decode (encode s) = .ok s := by
  rw [decode, encode, decodeFrom_encode]
  simp [Except.map]

theorem toNat_ofNat {n : Nat} (valid : n < 0xD800 ∨ (0xDFFF < n ∧ n < 0x110000)) :
    (Char.ofNat n).toNat = n := by
  rw [Char.ofNat, dif_pos (show n.isValidChar from valid)]
  rfl

theorem octet_eq {n : Nat} (octet : UInt8) (same : n = octet.toNat) : UInt8.ofNat n = octet := by
  rw [same, UInt8.ofNat_toNat]

theorem encodeChar_ofNat {n : Nat} (valid : n < 0xD800 ∨ (0xDFFF < n ∧ n < 0x110000)) :
    encodeChar (Char.ofNat n) =
      if n < 0x80 then [UInt8.ofNat n]
      else if n < 0x800 then [UInt8.ofNat (0xC0 + n / 64), continuation n]
      else if n < 0x10000 then
        [UInt8.ofNat (0xE0 + n / 4096), continuation (n / 64), continuation n]
      else
        [UInt8.ofNat (0xF0 + n / 262144), continuation (n / 4096), continuation (n / 64),
          continuation n] := by
  simp only [encodeChar, toNat_ofNat valid]

/-- The octets of a character are read off the octets that it was made of. -/
theorem encodeChar_one {a : UInt8} (ha : a.toNat < 0x80) :
    encodeChar (Char.ofNat a.toNat) = [a] := by
  rw [encodeChar_ofNat (by omega), if_pos ha, UInt8.ofNat_toNat]

theorem encodeChar_two {a b : UInt8} (ha : 0xC2 ≤ a.toNat ∧ a.toNat < 0xE0)
    (hb : 0x80 ≤ b.toNat ∧ b.toNat ≤ 0xBF) :
    encodeChar (Char.ofNat ((a.toNat - 0xC0) * 64 + (b.toNat - 0x80))) = [a, b] := by
  rw [encodeChar_ofNat (by omega)]
  rw [if_neg (by omega), if_pos (by omega), continuation, octet_eq a (by omega),
    octet_eq b (by omega)]

theorem encodeChar_three {a b c : UInt8} (ha : 0xE0 ≤ a.toNat ∧ a.toNat < 0xF0)
    (hb : 0x80 ≤ b.toNat ∧ b.toNat ≤ 0xBF) (hc : 0x80 ≤ c.toNat ∧ c.toNat ≤ 0xBF)
    (long : a.toNat = 0xE0 → 0xA0 ≤ b.toNat) (single : a.toNat = 0xED → b.toNat ≤ 0x9F) :
    encodeChar (Char.ofNat (((a.toNat - 0xE0) * 64 + (b.toNat - 0x80)) * 64 + (c.toNat - 0x80))) =
      [a, b, c] := by
  rw [encodeChar_ofNat (by omega)]
  rw [if_neg (by omega), if_neg (by omega), if_pos (by omega), continuation, continuation,
    octet_eq a (by omega), octet_eq b (by omega),
    octet_eq c (by omega)]

theorem encodeChar_four {a b c d : UInt8} (ha : 0xF0 ≤ a.toNat ∧ a.toNat < 0xF5)
    (hb : 0x80 ≤ b.toNat ∧ b.toNat ≤ 0xBF) (hc : 0x80 ≤ c.toNat ∧ c.toNat ≤ 0xBF)
    (hd : 0x80 ≤ d.toNat ∧ d.toNat ≤ 0xBF) (long : a.toNat = 0xF0 → 0x90 ≤ b.toNat)
    (last : a.toNat = 0xF4 → b.toNat ≤ 0x8F) :
    encodeChar (Char.ofNat ((((a.toNat - 0xF0) * 64 + (b.toNat - 0x80)) * 64 + (c.toNat - 0x80)) * 64 +
      (d.toNat - 0x80))) = [a, b, c, d] := by
  rw [encodeChar_ofNat (by omega)]
  rw [if_neg (by omega), if_neg (by omega), if_neg (by omega), continuation, continuation,
    continuation, octet_eq a (by omega), octet_eq b (by omega),
    octet_eq c (by omega), octet_eq d (by omega)]

theorem map_cons_eq_ok {c : Char} {read : Except Fault (List Char)} {s : List Char}
    (mapped : read.map (c :: ·) = .ok s) : ∃ rest, s = c :: rest ∧ read = .ok rest := by
  cases read with
  | error f => cases mapped
  | ok rest => exact ⟨rest, (Except.ok.inj mapped).symm, rfl⟩

/-- A character that is not at its end is continued by an octet in the range that it allows. -/
theorem decodeFrom_pending {position : Nat} {p : Pending} {octets : List UInt8} {s : List Char}
    (decoded : decodeFrom position (some p) octets = .ok s) :
    ∃ octet rest, octets = octet :: rest ∧ p.least ≤ octet.toNat ∧ octet.toNat ≤ p.greatest ∧
      if p.due ≤ 1 then
        ∃ later, s = Char.ofNat (p.bits * 64 + (octet.toNat - 0x80)) :: later ∧
          decodeFrom (position + 1) none rest = .ok later
      else decodeFrom (position + 1) (some ⟨p.due - 1, p.taken + 1, p.first,
        p.bits * 64 + (octet.toNat - 0x80), 0x80, 0xBF⟩) rest = .ok s := by
  cases octets with
  | nil => simp [decodeFrom] at decoded
  | cons octet rest =>
    rw [decodeFrom] at decoded
    simp only at decoded
    split at decoded
    next range =>
      refine ⟨octet, rest, rfl, range.1, range.2, ?_⟩
      split at decoded
      next last =>
        rw [if_pos last]
        exact map_cons_eq_ok decoded
      next more =>
        rw [if_neg more]
        exact decoded
    next => cases decoded

theorem lead?_eq_some {octet : UInt8} {l : Lead} (lead : lead? octet = some l) :
    (octet.toNat < 0x80 ∧ l = ⟨0, octet.toNat, 0x80, 0xBF⟩) ∨
    ((0xC2 ≤ octet.toNat ∧ octet.toNat < 0xE0) ∧ l = ⟨1, octet.toNat - 0xC0, 0x80, 0xBF⟩) ∨
    ((0xE0 ≤ octet.toNat ∧ octet.toNat < 0xF0) ∧ l = ⟨2, octet.toNat - 0xE0,
      if octet.toNat = 0xE0 then 0xA0 else 0x80, if octet.toNat = 0xED then 0x9F else 0xBF⟩) ∨
    ((0xF0 ≤ octet.toNat ∧ octet.toNat < 0xF5) ∧ l = ⟨3, octet.toNat - 0xF0,
      if octet.toNat = 0xF0 then 0x90 else 0x80, if octet.toNat = 0xF4 then 0x8F else 0xBF⟩) := by
  simp only [lead?] at lead
  generalize octet.toNat = n at lead ⊢
  split at lead
  · exact .inl ⟨‹_›, (Option.some.inj lead).symm⟩
  · split at lead
    · cases lead
    · split at lead
      · exact .inr (.inl ⟨⟨by omega, ‹_›⟩, (Option.some.inj lead).symm⟩)
      · split at lead
        · exact .inr (.inr (.inl ⟨⟨by omega, ‹_›⟩, (Option.some.inj lead).symm⟩))
        · split at lead
          · exact .inr (.inr (.inr ⟨⟨by omega, ‹_›⟩, (Option.some.inj lead).symm⟩))
          · cases lead

/-- Octets that are read as a text are the octets of that text. -/
theorem flatMap_encodeChar_of_decodeFrom {position : Nat} {octets : List UInt8} {s : List Char}
    (decoded : decodeFrom position none octets = .ok s) : s.flatMap encodeChar = octets := by
  match octets with
  | [] =>
    rw [decodeFrom] at decoded
    rw [← Except.ok.inj decoded]
    rfl
  | a :: rest =>
    rw [decodeFrom] at decoded
    cases lead : lead? a with
    | none => simp [lead] at decoded
    | some l =>
      simp only [lead] at decoded
      rcases lead?_eq_some lead with ⟨ha, rfl⟩ | ⟨ha, rfl⟩ | ⟨ha, rfl⟩ | ⟨ha, rfl⟩
      · obtain ⟨later, rfl, tail⟩ := map_cons_eq_ok decoded
        rw [List.flatMap_cons, encodeChar_one ha, flatMap_encodeChar_of_decodeFrom tail]
        rfl
      · obtain ⟨b, rest, rfl, low, high, later, rfl, tail⟩ := decodeFrom_pending decoded
        rw [List.flatMap_cons, flatMap_encodeChar_of_decodeFrom tail]
        exact congrArg (· ++ rest) (encodeChar_two ha ⟨low, high⟩)
      · obtain ⟨b, rest, rfl, low, high, decoded⟩ := decodeFrom_pending decoded
        obtain ⟨c, rest, rfl, hc, hc', later, rfl, tail⟩ := decodeFrom_pending decoded
        simp only [Lead.pending] at low high
        rw [List.flatMap_cons, flatMap_encodeChar_of_decodeFrom tail]
        refine congrArg (· ++ rest) (encodeChar_three ha ?_ ⟨hc, hc'⟩ ?_ ?_)
        · split at low <;> split at high <;> omega
        · intro same
          rwa [if_pos same] at low
        · intro same
          rwa [if_pos same] at high
      · obtain ⟨b, rest, rfl, low, high, decoded⟩ := decodeFrom_pending decoded
        obtain ⟨c, rest, rfl, hc, hc', decoded⟩ := decodeFrom_pending decoded
        obtain ⟨d, rest, rfl, hd, hd', later, rfl, tail⟩ := decodeFrom_pending decoded
        simp only [Lead.pending] at low high
        rw [List.flatMap_cons, flatMap_encodeChar_of_decodeFrom tail]
        refine congrArg (· ++ rest) (encodeChar_four ha ?_ ⟨hc, hc'⟩ ⟨hd, hd'⟩ ?_ ?_)
        · split at low <;> split at high <;> omega
        · intro same
          rwa [if_pos same] at low
        · intro same
          rwa [if_pos same] at high
termination_by octets.length

/-- What is read as a text are the octets of that text, and nothing else. -/
theorem decode_eq_ok {octets : List UInt8} {s : String} :
    decode octets = .ok s ↔ octets = encode s := by
  constructor
  · intro decoded
    rw [decode] at decoded
    cases read : decodeFrom 0 none octets with
    | error f => simp [read, Except.map] at decoded
    | ok chars =>
      rw [read] at decoded
      rw [← Except.ok.inj decoded, encode, String.toList_ofList,
        flatMap_encodeChar_of_decodeFrom read]
  · rintro rfl
    exact decode_encode s

theorem decode_eq_error {octets : List UInt8} (noText : ∀ s, octets ≠ encode s) :
    ∃ f, decode octets = .error f := by
  cases decoded : decode octets with
  | error f => exact ⟨f, rfl⟩
  | ok s => exact absurd (decode_eq_ok.mp decoded) (noText s)

end CloneScan.Text.Utf8
