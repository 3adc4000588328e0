/-! Paths as they are written. A path is an anchor and its parts; repeated slashes, single dots and
a slash at the end leave no trace, while two dots stay, for only the files themselves can say
where they lead. -/
namespace CloneScan

inductive Anchor where
  | relative
  | root
  /-- Exactly two slashes in front, which stay two. -/
  | doubleRoot
  deriving DecidableEq, Repr

structure Path where
  anchor : Anchor
  parts : List String
  deriving DecidableEq, Repr

namespace Path

def anchorOf : List Char → Anchor
  | '/' :: '/' :: '/' :: _ => .root
  | '/' :: '/' :: _ => .doubleRoot
  | '/' :: _ => .root
  | _ => .relative

def partsOf (s : List Char) : List String :=
  ((s.splitOn '/').filter fun part => part != [] && part != ['.']).map .ofList

def ofText (s : String) : Path := ⟨anchorOf s.toList, partsOf s.toList⟩

def Anchor.text : Anchor → String
  | .relative => ""
  | .root => "/"
  | .doubleRoot => "//"

/-- The normal spelling; a path to nowhere else is a dot. -/
def text (p : Path) : String :=
  match p.anchor, p.parts with
  | .relative, [] => "."
  | anchor, parts => Anchor.text anchor ++ "/".intercalate parts

/-- An anchored path on the right stands for itself. -/
def join (p q : Path) : Path :=
  match q.anchor with
  | .relative => ⟨p.anchor, p.parts ++ q.parts⟩
  | _ => q

/-- Whether a null character stands in a path, which no file can be found by. -/
def hasNull (p : Path) : Bool := p.parts.any fun part => part.toList.contains '\x00'

def name (p : Path) : String := p.parts.getLast?.getD ""

/-- Whether the last part is a name rather than a step up. -/
def endsInName (p : Path) : Bool := p.name != "" && p.name != ".."

def parent (p : Path) : Path := ⟨p.anchor, p.parts.dropLast⟩

/-- From the last dot of a name on, unless that dot is its first or its last character. -/
def suffixOf (name : List Char) : List Char :=
  match (name.reverse.span (· != '.')) with
  | (after, '.' :: before) => if after.isEmpty || before.isEmpty then [] else '.' :: after.reverse
  | _ => []

def suffix (p : Path) : String := .ofList (suffixOf p.name.toList)

def stemOf (name : List Char) : List Char := name.take (name.length - (suffixOf name).length)

def withSuffix? (p : Path) (suffix : String) : Option Path :=
  if p.parts.isEmpty then none
  else some ⟨p.anchor, p.parts.dropLast ++ [.ofList (stemOf p.name.toList) ++ suffix]⟩

/-- The path with some text added to its last part, if it has one. -/
def extend? (p : Path) (more : String) : Option Path :=
  if p.parts.isEmpty then none else some ⟨p.anchor, p.parts.dropLast ++ [p.name ++ more]⟩

/-- The extension that tells a file's kind. Dots at the front of a name start no extension. -/
def extensionOf (name : List Char) : List Char :=
  let core := name.dropWhile (· == '.')
  match core.reverse.span (· != '.') with
  | (after, '.' :: _) => '.' :: after.reverse
  | _ => []

end CloneScan.Path
