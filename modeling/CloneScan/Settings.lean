import CloneScan.Value

/-! Settings of a run. Values of any shape come in, from a file or from the command line;
`Settings.check` accepts them or names the first one at fault, so that every later stage gets
window sizes and limits that are positive. -/
namespace CloneScan

inductive Setting where
  | minLines | minTokens | blockSizes | maxBlocksPerFile | extensions | excludedDirs | sourceDir
  | reportPath | utilitiesDir | topCount | previewLength | consolePreviewLength | workers
  deriving DecidableEq, Repr

namespace Setting

def all : List Setting := [
  minLines, minTokens, blockSizes, maxBlocksPerFile, extensions, excludedDirs, sourceDir,
  reportPath, utilitiesDir, topCount, previewLength, consolePreviewLength, workers]

def name : Setting → String
  | minLines => "min_lines"
  | minTokens => "min_tokens"
  | blockSizes => "block_sizes"
  | maxBlocksPerFile => "max_blocks_per_file"
  | extensions => "extensions"
  | excludedDirs => "exclude_dirs"
  | sourceDir => "src_dir"
  | reportPath => "report_path"
  | utilitiesDir => "utils_dir"
  | topCount => "top_n"
  | previewLength => "preview_chars"
  | consolePreviewLength => "console_preview_chars"
  | workers => "workers"

def ofName? (s : String) : Option Setting := all.find? (·.name == s)

theorem ofName?_name (s : Setting) : ofName? s.name = some s := by cases s <;> decide

def defaultValue : Setting → Value
  | minLines => .int 5
  | minTokens => .int 50
  | blockSizes => .list [.int 5, .int 10, .int 15, .int 20]
  | maxBlocksPerFile => .int 50
  | extensions => .list [.text ".ts", .text ".svelte", .text ".js"]
  | excludedDirs => .list [
      .text "node_modules", .text ".svelte-kit", .text "dist", .text "build", .text ".git",
      .text "static", .text "stories"]
  | sourceDir => .text "./src"
  | reportPath => .text "duplication-report.json"
  | utilitiesDir => .text "src/lib/utils"
  | topCount => .int 10
  | previewLength => .int 200
  | consolePreviewLength => .int 150
  | workers => .int 1

end Setting

abbrev Positive := { n : Nat // 0 < n }

/-- Checked settings. Names and paths keep whatever value they were given: they are looked at
where they are used. -/
structure Settings where
  minLines : Positive
  minTokens : Positive
  blockSizes : List Positive
  maxBlocksPerFile : Positive
  extensions : List Value
  excludedDirs : List Value
  sourceDir : Value
  reportPath : Value
  utilitiesDir : Value
  topCount : Positive
  previewLength : Positive
  consolePreviewLength : Positive
  workers : Positive
  blockSizes_ne_nil : blockSizes ≠ []

namespace Settings

inductive Fault where
  /-- A list was wanted. -/
  | notIterable (got : Value)
  | notPositive (setting : Setting) (got : Value)
  | noBlockSizes
  | blockSizeNotPositive (got : Value)
  /-- A change to a setting that does not exist. -/
  | unknown (name : String)
  /-- A change to the settings as a whole. -/
  | itself

def Fault.shown? : Fault → Option Value
  | notPositive _ got | blockSizeNotPositive got => some got
  | _ => none

def Fault.message : Fault → String
  | notIterable got => "'" ++ got.typeName ++ "' object is not iterable"
  | notPositive setting got =>
    setting.name ++ " must be a positive integer, got " ++ got.literal
  | noBlockSizes => "block_sizes must not be empty"
  | blockSizeNotPositive got => "block_sizes must be positive integers, got " ++ got.literal
  | unknown name => "unknown setting: " ++ name
  | itself => "the settings cannot be changed as a whole"

abbrev Raw := Setting → Value

def Raw.set (raw : Raw) (setting : Setting) (v : Value) : Raw :=
  fun other => if other = setting then v else raw other

def elements (v : Value) : Except Fault (List Value) :=
  match v.elements? with
  | some items => .ok items
  | none => .error (.notIterable v)

/-- Whole numbers from one on; truth values are not numbers here. -/
def positive? : Value → Option Positive
  | .int i => if h : 0 < i.toNat then some ⟨i.toNat, h⟩ else none
  | _ => none

def positive (raw : Raw) (setting : Setting) : Except Fault Positive :=
  match positive? (raw setting) with
  | some n => .ok n
  | none => .error (.notPositive setting (raw setting))

def sizes : List Value → Except Fault (List Positive)
  | [] => .ok []
  | v :: rest =>
    match positive? v with
    | some n => (sizes rest).map (n :: ·)
    | none => .error (.blockSizeNotPositive v)

/-- Lists are taken apart first, then the numbers are looked at in their order, then the window
sizes; the first fault counts. -/
def check (raw : Raw) : Except Fault Settings := do
  let sizeValues ← elements (raw .blockSizes)
  let extensions ← elements (raw .extensions)
  let excludedDirs ← elements (raw .excludedDirs)
  let minLines ← positive raw .minLines
  let minTokens ← positive raw .minTokens
  let maxBlocksPerFile ← positive raw .maxBlocksPerFile
  let topCount ← positive raw .topCount
  let previewLength ← positive raw .previewLength
  let consolePreviewLength ← positive raw .consolePreviewLength
  let workers ← positive raw .workers
  let blockSizes ← sizes sizeValues
  if h : blockSizes ≠ [] then
    return {
      minLines, minTokens, blockSizes, maxBlocksPerFile, extensions, excludedDirs, topCount,
      previewLength, consolePreviewLength, workers
      sourceDir := raw .sourceDir
      reportPath := raw .reportPath
      utilitiesDir := raw .utilitiesDir
      blockSizes_ne_nil := h }
  else throw .noBlockSizes

/-- The value of each setting again; lists have become lists. -/
def raw (s : Settings) : Raw
  | .minLines => .int s.minLines.val
  | .minTokens => .int s.minTokens.val
  | .blockSizes => .list (s.blockSizes.map fun n => .int n.val)
  | .maxBlocksPerFile => .int s.maxBlocksPerFile.val
  | .extensions => .list s.extensions
  | .excludedDirs => .list s.excludedDirs
  | .sourceDir => s.sourceDir
  | .reportPath => s.reportPath
  | .utilitiesDir => s.utilitiesDir
  | .topCount => .int s.topCount.val
  | .previewLength => .int s.previewLength.val
  | .consolePreviewLength => .int s.consolePreviewLength.val
  | .workers => .int s.workers.val

def default : Settings where
  minLines := ⟨5, Nat.zero_lt_succ _⟩
  minTokens := ⟨50, Nat.zero_lt_succ _⟩
  blockSizes := [
    ⟨5, Nat.zero_lt_succ _⟩, ⟨10, Nat.zero_lt_succ _⟩, ⟨15, Nat.zero_lt_succ _⟩,
    ⟨20, Nat.zero_lt_succ _⟩]
  maxBlocksPerFile := ⟨50, Nat.zero_lt_succ _⟩
  extensions := [.text ".ts", .text ".svelte", .text ".js"]
  excludedDirs := [
    .text "node_modules", .text ".svelte-kit", .text "dist", .text "build", .text ".git",
    .text "static", .text "stories"]
  sourceDir := .text "./src"
  reportPath := .text "duplication-report.json"
  utilitiesDir := .text "src/lib/utils"
  topCount := ⟨10, Nat.zero_lt_succ _⟩
  previewLength := ⟨200, Nat.zero_lt_succ _⟩
  consolePreviewLength := ⟨150, Nat.zero_lt_succ _⟩
  workers := ⟨1, Nat.zero_lt_succ _⟩
  blockSizes_ne_nil := List.cons_ne_nil _ _

theorem check_default : check Setting.defaultValue = .ok default := rfl

/-- Fields that name a setting replace its default; the others are passed over. -/
def merge (raw : Raw) (fields : List (String × Value)) : Raw :=
  fields.foldl (fun raw field =>
    match Setting.ofName? field.1 with
    | some setting => raw.set setting field.2
    | none => raw) raw

def ofFields (fields : List (String × Value)) : Except Fault Settings :=
  check (merge Setting.defaultValue fields)

def unknownNames (fields : List (String × Value)) : List String :=
  (fields.map (·.1)).filter fun name => (Setting.ofName? name).isNone

/-- The name by which the settings go themselves, so no setting can have it. -/
def ownName : String := "self"

/-- Changes some settings of a run; an absent value changes nothing, an unknown name is
refused. The settings' own name is refused whatever its value. -/
def replace (s : Settings) (changes : List (String × Value)) : Except Fault Settings :=
  let given := changes.filter fun change => !change.2.isNull
  if changes.any fun change => change.1 == ownName then .error .itself
  else
    match unknownNames given with
    | name :: _ => .error (.unknown name)
    | [] => check (merge s.raw given)

end CloneScan.Settings
