import CloneScan.Text.Numeral
import CloneScan.Text.Quoted

/-! Characters as octets. Decoding stops at the first octet that no character can have there,
and says which octets are at fault. -/
namespace CloneScan.Text.Utf8

inductive Reason where
  | invalidStart
  | invalidContinuation
  | unexpectedEnd
  deriving DecidableEq, Repr

def Reason.message : Reason → String
  | .invalidStart => "invalid start byte"
  | .invalidContinuation => "invalid continuation byte"
  | .unexpectedEnd => "unexpected end of data"

/-- `count` octets from `position` on are at fault, the first of them `octet`. -/
structure Fault where
  octet : UInt8
  position : Nat
  count : Nat
  reason : Reason
  deriving DecidableEq, Repr

def Fault.message (f : Fault) : String :=
  if f.count = 1 then
    "'utf-8' codec can't decode byte 0x" ++ .ofList (hex 2 f.octet.toNat) ++ " in position " ++
      Numeral.text f.position ++ ": " ++ f.reason.message
  else
    "'utf-8' codec can't decode bytes in position " ++ Numeral.text f.position ++ "-" ++
      Numeral.text (f.position + f.count - 1) ++ ": " ++ f.reason.message

structure Lead where
  following : Nat
  bits : Nat
  least : Nat
  greatest : Nat
  deriving DecidableEq, Repr

/-- The second octet is restricted where a shorter form, a surrogate, or a code point beyond
the last one would arise. -/
def lead? (octet : UInt8) : Option Lead :=
  let n := octet.toNat
  if n < 0x80 then some ⟨0, n, 0x80, 0xBF⟩
  else if n < 0xC2 then none
  else if n < 0xE0 then some ⟨1, n - 0xC0, 0x80, 0xBF⟩
  else if n < 0xF0 then
    some ⟨2, n - 0xE0, if n = 0xE0 then 0xA0 else 0x80, if n = 0xED then 0x9F else 0xBF⟩
  else if n < 0xF5 then
    some ⟨3, n - 0xF0, if n = 0xF0 then 0x90 else 0x80, if n = 0xF4 then 0x8F else 0xBF⟩
  else none

structure Pending where
  due : Nat
  taken : Nat
  first : UInt8
  bits : Nat
  least : Nat
  greatest : Nat

def Lead.pending (l : Lead) (octet : UInt8) : Pending :=
  ⟨l.following, 1, octet, l.bits, l.least, l.greatest⟩

/-- Reads the octets of one character after another. `position` is where the next octet
stands. -/
def decodeFrom (position : Nat) : Option Pending → List UInt8 → Except Fault (List Char)
  | none, [] => .ok []
  | some p, [] => .error ⟨p.first, position - p.taken, p.taken, .unexpectedEnd⟩
  | none, octet :: rest =>
    match lead? octet with
    | none => .error ⟨octet, position, 1, .invalidStart⟩
    | some l =>
      if l.following = 0 then
        (decodeFrom (position + 1) none rest).map (Char.ofNat l.bits :: ·)
      else decodeFrom (position + 1) (some (l.pending octet)) rest
  | some p, octet :: rest =>
    let n := octet.toNat
    if p.least ≤ n ∧ n ≤ p.greatest then
      let bits := p.bits * 64 + (n - 0x80)
      if p.due ≤ 1 then (decodeFrom (position + 1) none rest).map (Char.ofNat bits :: ·)
      else
        decodeFrom (position + 1)
          (some ⟨p.due - 1, p.taken + 1, p.first, bits, 0x80, 0xBF⟩) rest
    else .error ⟨p.first, position - p.taken, p.taken, .invalidContinuation⟩

def decode (octets : List UInt8) : Except Fault String :=
  (decodeFrom 0 none octets).map .ofList

def continuation (n : Nat) : UInt8 := UInt8.ofNat (0x80 + n % 64)

def encodeChar (c : Char) : List UInt8 :=
  let n := c.toNat
  if n < 0x80 then [UInt8.ofNat n]
  else if n < 0x800 then [UInt8.ofNat (0xC0 + n / 64), continuation n]
  else if n < 0x10000 then
    [UInt8.ofNat (0xE0 + n / 4096), continuation (n / 64), continuation n]
  else
    [UInt8.ofNat (0xF0 + n / 262144), continuation (n / 4096), continuation (n / 64),
      continuation n]

def encode (s : String) : List UInt8 := s.toList.flatMap encodeChar

end CloneScan.Text.Utf8
