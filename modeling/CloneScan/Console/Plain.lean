/-! Text for a console that is not a terminal: colour and cursor sequences are left out, wherever
they come from. -/
namespace CloneScan.Console

def isLetter (c : Char) : Bool := c.isAlpha

def isParameter (c : Char) : Bool := c == ';' || c == '?' || c.isDigit

/-- What follows a sequence whose opening has been read: parameters and one letter. -/
def pastSequence? (s : List Char) : Option (List Char) :=
  match s.dropWhile isParameter with
  | c :: rest => if isLetter c then some rest else none
  | [] => none

def sequenceLength : List Char → Nat
  | '\x1b' :: '[' :: rest =>
    match pastSequence? rest with
    | some after => rest.length - after.length + 2
    | none => 0
  | _ => 0

/-- Copies a text without its control sequences; the first `skip` characters are passed over. -/
def plainAfter : Nat → List Char → List Char
  | _, [] => []
  | skip + 1, _ :: rest => plainAfter skip rest
  | 0, c :: rest =>
    match sequenceLength (c :: rest) with
    | n + 1 => plainAfter n rest
    | 0 => c :: plainAfter 0 rest

def plain (s : String) : String := .ofList (plainAfter 0 s.toList)

end CloneScan.Console
