import CloneScan.Command.Switch
import CloneScan.Settings

/-! What a command line asks for. -/
namespace CloneScan.Command

/-- How to scan a tree. What is absent is left to the settings file. -/
structure ScanOptions where
  directory : Option String
  /-- Named beside the directory, where there is nothing to name. -/
  surplus : Option String
  blockSizes : List Int
  minTokens : Option Int
  minLines : Option Int
  maxBlocks : Option Int
  extensions : List String
  excludedDirs : List String
  top : Option Int
  workers : Option Int
  report : Option String
  /-- A file for a further copy of the report. -/
  output : Option String
  quiet : Bool
  deriving Repr

structure SuggestOptions where
  create : Bool
  dryRun : Bool
  report : Option String
  utilitiesDir : Option String
  deriving Repr

inductive Request where
  | help
  | version
  | analyze (o : ScanOptions)
  | full (o : ScanOptions)
  | suggest (o : SuggestOptions)
  | view (report : Option String)
  | clean (report : Option String)
  deriving Repr

structure Invocation where
  verbose : Bool
  request : Request
  deriving Repr

def Request.paths : Request → List String
  | help | version => []
  | analyze o | full o => [o.directory, o.report, o.output].filterMap id
  | suggest o => [o.report, o.utilitiesDir].filterMap id
  | view report | clean report => report.toList

/-! ## Changes to the settings -/

def optionalInt (i : Option Int) : Value := (i.map Value.int).getD .null

def optionalText (s : Option String) : Value := (s.map Value.text).getD .null

/-- Nothing given changes nothing. -/
def listed (f : α → Value) (xs : List α) : Value :=
  if xs.isEmpty then .null else .list (xs.map f)

def ScanOptions.changes (o : ScanOptions) : List (String × Value) := [
  (Setting.blockSizes.name, listed .int o.blockSizes),
  (Setting.extensions.name, listed .text o.extensions),
  (Setting.excludedDirs.name, listed .text o.excludedDirs),
  (Setting.minTokens.name, optionalInt o.minTokens),
  (Setting.minLines.name, optionalInt o.minLines),
  (Setting.maxBlocksPerFile.name, optionalInt o.maxBlocks),
  (Setting.topCount.name, optionalInt o.top),
  (Setting.workers.name, optionalInt o.workers),
  (Setting.reportPath.name, optionalText o.report)]

def SuggestOptions.changes (o : SuggestOptions) : List (String × Value) := [
  (Setting.reportPath.name, optionalText o.report),
  (Setting.utilitiesDir.name, optionalText o.utilitiesDir)]

def reportChanges (report : Option String) : List (String × Value) :=
  [(Setting.reportPath.name, optionalText report)]

/-! ## Reading -/

def generalSpellings : Spellings :=
  [("-v", .verbose), ("--verbose", .verbose), ("--version", .version), ("--help", .help)]

def reportSpellings : Spellings := [("-r", .report), ("--report", .report), ("--help", .help)]

def suggestSpellings : Spellings := reportSpellings ++
  [("--create", .create), ("--dry-run", .dryRun), ("-u", .utilitiesDir),
    ("--utils-dir", .utilitiesDir)]

def scanSpellings : Spellings := reportSpellings ++ [
  ("-b", .blockSize), ("--block-size", .blockSize), ("--min-tokens", .minTokens),
  ("--min-lines", .minLines), ("--max-blocks", .maxBlocks), ("-e", .extension),
  ("--ext", .extension), ("-x", .excludedDir), ("--exclude-dir", .excludedDir), ("--top", .top),
  ("--workers", .workers), ("-o", .output), ("--output", .output), ("-q", .quiet),
  ("--quiet", .quiet)]

def readInt (text : String) : Except Fault Int :=
  match Numeral.read text.toList with
  | some i => .ok i
  | none => .error (.notNumber text)

def Given.int? (g : Given) (switch : Switch) : Except Fault (Option Int) :=
  match g.value? switch with
  | some text => (readInt text).map some
  | none => .ok none

def Given.ints (g : Given) (switch : Switch) : Except Fault (List Int) :=
  (g.values switch).mapM readInt

def Given.noOperand (g : Given) : Except Fault Unit :=
  match g.operands with
  | [] => .ok ()
  | operand :: _ => .error (.extraOperand operand)

def ScanOptions.ofGiven (g : Given) : Except Fault ScanOptions := do
  return {
    directory := g.operands[0]?
    surplus := g.operands[1]?
    blockSizes := ← g.ints .blockSize
    minTokens := ← g.int? .minTokens
    minLines := ← g.int? .minLines
    maxBlocks := ← g.int? .maxBlocks
    extensions := g.values .extension
    excludedDirs := g.values .excludedDir
    top := ← g.int? .top
    workers := ← g.int? .workers
    report := g.value? .report
    output := g.value? .output
    quiet := g.has .quiet }

def SuggestOptions.ofGiven (g : Given) : Except Fault SuggestOptions := do
  g.noOperand
  return ⟨g.has .create, g.has .dryRun, g.value? .report, g.value? .utilitiesDir⟩

def reportOfGiven (g : Given) : Except Fault (Option String) := do
  g.noOperand
  return g.value? .report

/-- The switches that are answered at once, whatever else was given. -/
def Given.atOnce? (g : Given) : Option Request :=
  g.switches.findSome? fun o =>
    match o.switch with
    | .help => some .help
    | .version => some .version
    | _ => none

def readCommand (known : Spellings) (read : Given → Except Fault Request) (args : List String) :
    Except Fault Request := do
  let given ← scan known true none args
  match given.atOnce? with
  | some request => return request
  | none => read given

def Request.ofArguments : List String → Except Fault Request
  | [] => .error .missingCommand
  | "analyze" :: args =>
    readCommand scanSpellings (fun g => .analyze <$> ScanOptions.ofGiven g) args
  | "full" :: args => readCommand scanSpellings (fun g => .full <$> ScanOptions.ofGiven g) args
  | "suggest" :: args =>
    readCommand suggestSpellings (fun g => .suggest <$> SuggestOptions.ofGiven g) args
  | "view" :: args => readCommand reportSpellings (fun g => .view <$> reportOfGiven g) args
  | "clean" :: args => readCommand reportSpellings (fun g => .clean <$> reportOfGiven g) args
  | name :: _ => .error (.unknownCommand name)

def Invocation.ofArguments (args : List String) : Except Fault Invocation := do
  let given ← scan generalSpellings false none args
  let request ← match given.atOnce? with
    | some request => pure request
    | none => Request.ofArguments given.operands
  return ⟨given.has .verbose, request⟩

end CloneScan.Command
