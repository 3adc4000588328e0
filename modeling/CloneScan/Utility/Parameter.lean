import CloneScan.Text.Alphanumeric

/-! Parameter names guessed from source text: its first few words that look like a variable. -/
namespace CloneScan.Utility

def wordRuns (s : List Char) : List (List Char) :=
  (s.splitOnP fun c => !Text.isWordChar c).filter fun run => !run.isEmpty

def isLowerLetter (c : Char) : Bool := 'a' ≤ c && c ≤ 'z'

def isPlain (c : Char) : Bool := c.isAlphanum

def reserved : List String := ["const", "let", "var", "function", "if", "else", "return"]

def looksLikeVariable : List Char → Bool
  | [] => false
  | c :: rest =>
    isLowerLetter c && rest.all isPlain && !reserved.contains (.ofList (c :: rest))

/-- The first distinct variables of a text. One is taken even if the limit is below one. -/
def parameters (code : String) (limit : Int) : List String :=
  (((wordRuns code.toList).filter looksLikeVariable).map String.ofList).eraseDups.take
    (max limit.toNat 1)

end CloneScan.Utility
