import CloneScan.Text.Alphanumeric
import CloneScan.Text.Blank

/-! Traits of source text. Each says that a mark stands somewhere in the text: a fixed spelling, a
spelling with blanks in it, or a branch with both of its arms. -/
namespace CloneScan.Trait

/-- The text from some place on satisfies a test; the test is also told the character before. -/
def somewhereAfter (test : Option Char → List Char → Bool) : Option Char → List Char → Bool
  | before, [] => test before []
  | before, c :: rest => test before (c :: rest) || somewhereAfter test (some c) rest

def somewhere (test : List Char → Bool) (s : List Char) : Bool :=
  somewhereAfter (fun _ rest => test rest) none s

def opensWith (mark : String) (s : List Char) : Bool := mark.toList.isPrefixOf s

def mentions (mark : String) (s : List Char) : Bool := somewhere (opensWith mark) s

def mentionsAny (marks : List String) (s : List Char) : Bool := marks.any (mentions · s)

def pastBlanks (s : List Char) : List Char := s.dropWhile Text.isBlank

def endsWord : List Char → Bool
  | c :: _ => !Text.isWordChar c
  | [] => true

def declaresAsync (s : List Char) : Bool :=
  somewhere (fun s =>
    match "async".toList.isPrefixOf? s with
    | none => false
    | some rest =>
      let declared := pastBlanks rest
      (rest.head?.any Text.isBlank) &&
        (opensWith "function" declared || opensWith "(" declared ||
          match "def".toList.isPrefixOf? declared with
          | some rest => endsWord rest
          | none => false)) s

def callsFetch (s : List Char) : Bool :=
  somewhereAfter (fun before s => !before.any Text.isWordChar && opensWith "fetch(" s) none s

def hasElse (s : List Char) : Bool :=
  somewhere (fun s =>
    match s with
    | '}' :: rest => opensWith "else" (pastBlanks rest)
    | _ => false) s

/-- From inside a condition: it closes on the same line, an arm opens after it, and an `else`
follows. -/
def closesWithArms : List Char → Bool
  | [] => false
  | c :: rest =>
    (c == ')' &&
      match pastBlanks rest with
      | '{' :: body => hasElse body
      | _ => false) ||
    (c != '\n' && closesWithArms rest)

def branches (s : List Char) : Bool :=
  somewhere (fun s =>
    match "if".toList.isPrefixOf? s with
    | none => false
    | some rest =>
      match pastBlanks rest with
      | '(' :: inside => closesWithArms inside
      | _ => false) s

end CloneScan.Trait
