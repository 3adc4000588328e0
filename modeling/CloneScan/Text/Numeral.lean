import CloneScan.Text.Alphanumeric
import CloneScan.Text.Blank

/-! Whole numbers in decimal. Writing uses the digits 0 to 9 without leading zeros; reading is
more generous and takes digits of any script. `value_ofNat` says that what is written is the
number. -/
namespace CloneScan.Numeral

def digit (d : Nat) : Char := Char.ofNat (48 + d)

def ofNat (n : Nat) : List Char :=
  if n < 10 then [digit n] else ofNat (n / 10) ++ [digit (n % 10)]
termination_by n
decreasing_by omega

def ofInt : Int → List Char
  | .ofNat n => ofNat n
  | .negSucc n => '-' :: ofNat (n + 1)

def text (i : Int) : String := .ofList (ofInt i)

/-- At least `width` digits, with zeros in front. -/
def padded (width n : Nat) : List Char :=
  List.replicate (width - (ofNat n).length) '0' ++ ofNat n

def value (ds : List Char) : Nat := ds.foldl (fun n c => 10 * n + (c.toNat - 48)) 0

theorem toNat_digit {d : Nat} (h : d < 10) : (digit d).toNat = 48 + d := by
  have : ∀ d : Fin 10, (digit d).toNat = 48 + d := by decide
  exact this ⟨d, h⟩

theorem value_append (ds : List Char) (c : Char) :
    value (ds ++ [c]) = 10 * value ds + (c.toNat - 48) := by
  simp [value]

@[simp] theorem value_ofNat (n : Nat) : value (ofNat n) = n := by
  fun_induction ofNat n with
  | case1 n h => simp [value, toNat_digit h]
  | case2 n h ih =>
    rw [value_append, ih, toNat_digit (Nat.mod_lt _ (by omega))]
    omega

theorem ofNat_injective {m n : Nat} (h : ofNat m = ofNat n) : m = n := by
  rw [← value_ofNat m, h, value_ofNat]

/-- Digits with single underscores between them; an underscore needs a digit on either side. -/
def readDigits (n : Nat) (afterDigit : Bool) : List Char → Option Nat
  | [] => if afterDigit then some n else none
  | '_' :: rest => if afterDigit then readDigits n false rest else none
  | c :: rest => (Text.digitValue? c).bind fun d => readDigits (10 * n + d) true rest

/-- Blanks around a numeral; the separator controls do not count here. -/
def isMargin (c : Char) : Bool := Text.isBlank c && !(28 ≤ c.toNat && c.toNat ≤ 31)

/-- A numeral of at most this many digits is read or written. -/
def longest : Nat := 4300

/-- Whether a number has at most so many digits. -/
def isWritable (i : Int) : Bool := decide (i.natAbs < Nat.pow 10 longest)

inductive Fault where
  /-- A numeral with more digits than are read. -/
  | tooLongToRead (digits : Nat)
  /-- A number with more digits than are written. -/
  | tooLongToWrite
  deriving DecidableEq, Repr

def Fault.message (f : Fault) : String :=
  "Exceeds the limit (" ++ text longest ++ " digits) for integer string conversion" ++
    (match f with
    | tooLongToRead digits => ": value has " ++ text digits ++ " digits"
    | tooLongToWrite => "") ++
    "; use sys.set_int_max_str_digits() to increase the limit"

/-- A whole number as typed on a command line: a sign, digits of any script, underscores
between digits, blanks around it. -/
def read (s : List Char) : Option Int :=
  let core := ((s.dropWhile isMargin).reverse.dropWhile isMargin).reverse
  if longest < (core.filter fun c => (Text.digitValue? c).isSome).length then none
  else match core with
    | '-' :: rest => (readDigits 0 false rest).map fun n => -(n : Int)
    | '+' :: rest => (readDigits 0 false rest).map fun n => (n : Int)
    | rest => (readDigits 0 false rest).map fun n => (n : Int)

end CloneScan.Numeral
