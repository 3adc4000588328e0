/-! Sets of characters written as a sorted list of boundaries: the first number opens a run of
code points, the second closes it (exclusively), and so on. Large character classes are
stored this way. -/
namespace CloneScan.Text

/-- Code points at which membership changes, in increasing order. -/
abbrev Boundaries := List Nat

/-- Looks at one run at a time; the order lets a code point below a run end the search. -/
def Boundaries.contains : Boundaries → Nat → Bool
  | opens :: closes :: rest, n =>
    if n < opens then false else if n < closes then true else contains rest n
  | [opens], n => opens ≤ n
  | [], _ => false

end CloneScan.Text
