import CloneScan.Text.Blank

/-! The normal form of source text: line comments go first, then block comments, then layout is
reduced to single spaces. Comment marks are taken as such wherever they stand, inside quotes too.
Two texts are copies of each other when their normal forms agree. -/
namespace CloneScan.Source

/-- Drops everything from `//` to the end of its line. `inside` tells that the mark has been
seen on this line. -/
def dropLineComments (inside : Bool) : List Char → List Char
  | [] => []
  | c :: rest =>
    if c = '\n' then c :: dropLineComments false rest
    else if inside || (c == '/' && rest.head? == some '/') then dropLineComments true rest
    else c :: dropLineComments false rest

def afterClose? : List Char → Option (List Char)
  | '*' :: '/' :: rest => some rest
  | _ :: rest => afterClose? rest
  | [] => none

theorem length_afterClose? {s rest : List Char} (h : afterClose? s = some rest) :
    rest.length < s.length := by
  fun_induction afterClose? s with
  | case1 r => cases h; simp only [List.length_cons]; omega
  | case2 c r _ ih => have := ih h; simp only [List.length_cons]; omega
  | case3 => cases h

/-- Drops every block comment up to its first closing mark. A comment that is never closed is
not a comment, and then none after it is closed either. -/
def dropBlockComments : List Char → List Char
  | '/' :: '*' :: rest =>
    match _closed : afterClose? rest with
    | some after => dropBlockComments after
    | none => '/' :: '*' :: rest
  | c :: rest => c :: dropBlockComments rest
  | [] => []
termination_by s => s.length
decreasing_by
  · have := length_afterClose? _closed; simp; omega
  · simp

def dropComments (s : List Char) : List Char := dropBlockComments (dropLineComments false s)

def normalForm (s : List Char) : List Char := Text.trim (Text.collapse false (dropComments s))

def normalize (code : String) : String := .ofList (normalForm code.toList)

end CloneScan.Source
