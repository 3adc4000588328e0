/-! Lines of a text. A text has one more line than it has newlines, so joining the lines of a
text gives the text back. -/
namespace CloneScan.Text

/-- The lines between newlines; the last one may be empty. -/
def lines (s : List Char) : List (List Char) := s.splitOn '\n'

def unlines (ls : List (List Char)) : List Char := ['\n'].intercalate ls

@[simp] theorem unlines_lines (s : List Char) : unlines (lines s) = s :=
  List.intercalate_splitOn '\n'

/-- A carriage return, alone or before a newline, ends a line as a newline does. -/
def unifyNewlines : List Char → List Char
  | '\r' :: '\n' :: rest => '\n' :: unifyNewlines rest
  | '\r' :: rest => '\n' :: unifyNewlines rest
  | c :: rest => c :: unifyNewlines rest
  | [] => []

/-- Text without carriage returns is left alone. -/
theorem unifyNewlines_eq_self {s : List Char} (h : '\r' ∉ s) : unifyNewlines s = s := by
  fun_induction unifyNewlines s <;> simp_all

end CloneScan.Text
