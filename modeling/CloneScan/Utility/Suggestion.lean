import CloneScan.Block
import CloneScan.Text.Case.Upper
import CloneScan.Utility.Template

/-! The console view of suggested utilities: for each type of code its file and its first functions,
then the beginning of every template file. -/
namespace CloneScan.Utility

def shownPerType : Nat := 3

def shownOfTemplate : Int := 500

def doubleRule : String := .ofList (List.replicate 80 '=')
def singleRule : String := .ofList (List.replicate 80 '-')

def functionLines (entry : Value) (stub : Stub) : Except Value.Fault (List String) := do
  let impact ← entry.fieldD "impact" (.int 0)
  let count ← entry.fieldD "count" (.int 0)
  return [
    "Function: " ++ stub.functionName ++ "(" ++ ", ".intercalate stub.parameters ++ ")",
    "Impact: " ++ impact.display ++ " lines",
    "Occurrences: " ++ count.display,
    ""]

def typeLines (utilitiesDir type : Value) (entries : List Value) :
    Except Value.Fault (List String) := do
  let name ← type.asText
  let path ← targetPath type utilitiesDir
  let functions ← ((entries.take shownPerType).zipIdx).mapM fun (entry, index) => do
    functionLines entry (← Stub.ofEntry entry index)
  return ["", "📁 " ++ .ofList (Text.upper name.toList), singleRule,
    "Suggested location: " ++ path, ""] ++ functions.flatten

def templatePath (utilitiesDir : String) (file : String) : Path :=
  (Path.ofText utilitiesDir).join (Path.ofText file)

def templateLines (utilitiesDir : Value) (t : Template) : Except Value.Fault (List String) := do
  let dir ← match utilitiesDir with
    | .text s => pure s
    | _ => throw .wrongKind
  return ["", "🗂️  " ++ t.file, singleRule, .ofList (leading shownOfTemplate t.content.toList),
    "...", "", "💾 Would create: " ++ (templatePath dir t.file).text, ""]

/-- The templates come last, also where making them failed. -/
def suggestions (artifact utilitiesDir : Value) (templates : Except Value.Fault (List Template)) :
    Except Value.Fault String := do
  let byType ← entriesByType artifact
  let types ← byType.mapM fun (type, entries) => typeLines utilitiesDir type entries
  let files ← (← templates).mapM (templateLines utilitiesDir)
  return "\n".intercalate <|
    ["", doubleRule, "🔧 REFACTORING SUGGESTIONS", doubleRule, ""] ++ types.flatten ++
    ["", doubleRule, "📝 UTILITY FILE TEMPLATES", doubleRule, ""] ++ files.flatten

end CloneScan.Utility
