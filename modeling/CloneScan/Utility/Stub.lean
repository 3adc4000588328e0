import CloneScan.Category.Trait
import CloneScan.Path
import CloneScan.Text.Lines
import CloneScan.Utility.Parameter
import CloneScan.Value.Access

/-! Stubs of utility functions. A stub is generated from one entry of a stored artifact: a comment
on where the code was found, a function that only throws, and the code itself in line comments.
The entry may have any shape, so generating one can fail. -/
namespace CloneScan.Utility

def mostParameters : Int := 3

def functionNames : List (String × String) := [
  ("async-function", "runAsyncTask"),
  ("api-call", "requestApi"),
  ("reactive-state", "createReactiveState"),
  ("logging", "logMessage"),
  ("date-manipulation", "formatDate"),
  ("array-processing", "transformItems"),
  ("conditional-logic", "resolveCondition")]

def targetFiles : List (String × String) := [
  ("async-function", "async-utils.ts"),
  ("api-call", "api-utils.ts"),
  ("reactive-state", "reactive-utils.ts"),
  ("logging", "logger.ts"),
  ("date-manipulation", "date-utils.ts"),
  ("array-processing", "array-utils.ts"),
  ("conditional-logic", "conditional-utils.ts")]

/-- The entry of a table for a type of code. Types that are no text have none. -/
def tableEntry (table : List (String × String)) (other : String) (type : Value) :
    Except Value.Fault String :=
  match type with
  | .text s => .ok ((table.lookup s).getD other)
  | _ => if type.isKey then .ok other else .error .wrongKind

def functionName (type : Value) (index : Int) : Except Value.Fault String := do
  let base ← tableEntry functionNames "utilityFunction" type
  match Value.writeIntFault? (index + 1) with
  | some f => throw (.write f)
  | none => return base ++ Numeral.text (index + 1)

def targetFile (type : Value) : Except Value.Fault String :=
  tableEntry targetFiles "misc-utils.ts" type

/-- The path of that file below a directory, whose slashes at the end do not count. -/
def targetPath (type : Value) (utilitiesDir : Value) : Except Value.Fault String := do
  let file ← targetFile type
  let dir ← utilitiesDir.asText
  return .ofList (dir.toList.reverse.dropWhile (· == '/')).reverse ++ "/" ++ file

structure Stub where
  functionName : String
  parameters : List String
  code : String
  deriving DecidableEq, Repr

/-- The line of the comment that names one place. Its numbers are taken to be writable
(`Numeral.isWritable`), as those of a report that was read are. -/
def placeText (file line : Value) : String :=
  " *   - " ++ file.display ++ ":" ++ line.display ++ "\n"

def placeLine (place : Value) : Except Value.Fault String := do
  let file ← place.part "file"
  let line ← place.part "startLine"
  return placeText file line

def concat (parts : List String) : String := parts.foldl (· ++ ·) ""

/-- The comment in front of a stub: what was suggested, and where the code was found. -/
def comment (suggestion : Value) (placeLines : List String) : String :=
  "/**\n * " ++ suggestion.display ++ "\n" ++
    " * Auto-generated from duplicate code analysis\n" ++ " * Found in:\n" ++
    concat placeLines ++ " */\n"

def signature (isAsync : Bool) (name : String) (parameters : List String) : String :=
  "export " ++ (if isAsync then "async function" else "function") ++ " " ++ name ++ "(" ++
    ", ".intercalate parameters ++ ") \x7b\n"

/-- What a stub does: it keeps the code in line comments and throws. -/
def body (code : String) : String :=
  "  // TODO: Refactor this code\n" ++ "  // Original code:\n" ++
    concat ((Text.lines code.toList).map fun line => "  // " ++ .ofList line ++ "\n") ++
    "\n  throw new Error('Not implemented - refactor needed');\n" ++ "\x7d\n\n"

/-- The text of a code field. Nothing else can be searched for words. -/
def codeText : Value → Except Value.Fault String
  | .text s => .ok s
  | _ => .error .wrongKind

def Stub.ofEntry (entry : Value) (index : Int) : Except Value.Fault Stub := do
  let codeField ← entry.fieldD "code" (.text "")
  let type ← entry.fieldD "type" (.text "unknown")
  let name ← Utility.functionName type index
  let code ← codeText codeField
  let params := Utility.parameters code mostParameters
  let suggestion ← entry.fieldD "suggestion" (.text "")
  let places ← (← entry.fieldD "locations" (.list [])).elements
  let placeLines ← places.mapM placeLine
  return {
    functionName := name
    parameters := params
    code := comment suggestion placeLines ++
      signature (Trait.mentions "async " code.toList) name params ++ body code }

end CloneScan.Utility
