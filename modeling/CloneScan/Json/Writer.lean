import CloneScan.Value

/-! JSON text of a value. Elements and fields stand on lines of their own, indented by two
spaces a level, in the order of the value; text is escaped only where JSON demands it. -/
namespace CloneScan.Json

open Text (hex)

/-- A number is shown as a value shows it, but the special ones have names of their own. -/
def floatNotation : Binary64.Notation := { Binary64.plain with
  infinity := "Infinity"
  undefined := "NaN" }

/-- Quotes, backslashes and control characters are escaped, nothing else. -/
def escape (c : Char) : List Char :=
  if c == '"' || c == '\\' then ['\\', c]
  else if c == '\n' then ['\\', 'n']
  else if c == '\r' then ['\\', 'r']
  else if c == '\t' then ['\\', 't']
  else if c == '\x08' then ['\\', 'b']
  else if c == '\x0c' then ['\\', 'f']
  else if c.toNat < 0x20 then ['\\', 'u'] ++ hex 4 c.toNat
  else [c]

def writeText (s : String) : List Char := '"' :: s.toList.flatMap escape ++ ['"']

def writeScalar : Value → List Char
  | .bool true => "true".toList
  | .bool false => "false".toList
  | .int i => Numeral.ofInt i
  | .float x => x.chars floatNotation
  | .text s => writeText s
  | _ => "null".toList

def newline (level : Nat) : List Char := '\n' :: List.replicate (2 * level) ' '

mutual
def write (level : Nat) : Value → List Char
  | .list [] => ['[', ']']
  | .list (v :: rest) =>
    '[' :: newline (level + 1) ++ write (level + 1) v ++ writeItems (level + 1) rest ++
      newline level ++ [']']
  | .record [] => ['\x7b', '\x7d']
  | .record ((name, v) :: rest) =>
    '\x7b' :: newline (level + 1) ++ writeText name ++ [':', ' '] ++ write (level + 1) v ++
      writeFields (level + 1) rest ++ newline level ++ ['\x7d']
  | v => writeScalar v

def writeItems (level : Nat) : List Value → List Char
  | [] => []
  | v :: rest => ',' :: newline level ++ write level v ++ writeItems level rest

def writeFields (level : Nat) : List (String × Value) → List Char
  | [] => []
  | (name, v) :: rest =>
    ',' :: newline level ++ writeText name ++ [':', ' '] ++ write level v ++
      writeFields level rest
end

def render (v : Value) : String := .ofList (write 0 v)

end CloneScan.Json
