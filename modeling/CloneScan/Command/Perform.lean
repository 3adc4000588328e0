import CloneScan.Analysis
import CloneScan.Command.Request
import CloneScan.Command.Run
import CloneScan.Command.Usage
import CloneScan.Utility.Creation
import CloneScan.Utility.Suggestion

/-! The commands. Each reads its settings first: defaults, then the settings file, then the command
line. Only `analyze` and `full` scan a tree and save a report; `suggest` and `view` read nothing but
the saved report. -/
namespace CloneScan.Command

open Run

/-! ## Settings -/

def settingsFields : Value → Run (List (String × Value))
  | .record fields => pure fields
  | _ => throw (.crash (.value .noMember))

def unknownRecords (fields : List (String × Value)) : List LogRecord :=
  (Settings.unknownNames fields).map fun name =>
    ⟨.debug, .settings, "Ignoring unknown config key: " ++ name⟩

/-- Tells what is wrong with the settings, if it can be written down. -/
def refuseSettings (f : Settings.Fault) : Run α :=
  match f.shown?.bind Value.writeFault? with
  | some w => throw (.crash (.value (.write w)))
  | none => refuse ("❌ Invalid configuration: " ++ f.message)

def configure (changes : List (String × Value)) : Run Settings := do
  let d ← disk
  let finding ← need .settingsFile (SettingsFile.load d (.ofText "."))
  tell (finding.records d)
  let fields ← settingsFields finding.table
  tell (unknownRecords fields)
  match Settings.ofFields fields >>= (·.replace changes) with
  | .ok settings => return settings
  | .error f => refuseSettings f

/-! ## Scanning -/

def spelledAsDirectory (path : String) : Bool :=
  match (path.toList.splitOn '/').getLast? with
  | some last => last == [] || last == ['.']
  | none => false

/-- A file is no place to scan. A path where nothing is may be asked for, unless no file can have
it. -/
def checkDirectory (directory : Option String) : Run Unit := do
  match directory with
  | some path =>
    let p := Path.ofText path
    if p.hasNull then throw (.crash (.file ⟨.nullCharacter, p, none⟩))
    if ((← disk).node? p).any Node.isFile && !spelledAsDirectory path then
      throw (.usage (.notDirectory path))
  | none => pure ()

/-- The directory is looked at before anything beside it is refused. -/
def checkOperands (o : ScanOptions) : Run Unit := do
  checkDirectory o.directory
  match o.surplus with
  | some operand => throw (.usage (.extraOperand operand))
  | none => pure ()

/-- An empty text says nothing. -/
def given? (s : Option String) : Option String := s.filter (!·.isEmpty)

def copyOf (output : String) : Run (Path × Report.Format) :=
  let path := Path.ofText output
  match Report.Format.ofExtension? path.suffix with
  | some format => pure (path, format)
  | none => refuse ("❌ Invalid output extension '" ++ path.suffix ++ "'. Valid: .md, .txt, .json")

def showProgress (p : Progress) : Run Unit := do
  print (← need .progress (Console.progressLine p.done p.total "files" Console.barWidth))
  if p.total ≤ p.done then echo ""

/-- Scans a tree. A missing directory is told apart from other faults. -/
def scanTree (settings : Settings) (root : Path) (quiet : Bool) : Run Report := do
  match Analysis.run settings (← disk) root root.text with
  | .ok a =>
    tell a.records
    if !quiet then (Assembly.progress a.index.files.length).forM showProgress
    return a.report
  | .error f =>
    match f with
    | .noDirectory _ =>
      tell [⟨.error, .command, f.message⟩]
      refuse ("❌ " ++ f.message)
    | _ =>
      tell [⟨.error, .command, "Error during analysis"⟩]
      refuse ("❌ Error during analysis: " ++ f.message)

def rendered (format : Report.Format) (settings : Settings) (r : Report) : Run String :=
  need .report (r.render format settings)

/-- Saves a report; what a refused save has written stays. -/
def save (settings : Settings) (r : Report) (path : Path) : Run Unit := do
  let (after, fault) := Store.save settings r (← disk) path
  setDisk after
  match fault with
  | some f => throw (.crash (.store f))
  | none => pure ()

def writeCopy (settings : Settings) (r : Report) (output : String) (path : Path)
    (format : Report.Format) : Run Unit := do
  let text ← rendered format settings r
  setDisk (← need .file ((← disk).write path (Text.Utf8.encode text)))
  echo ("   ✅ Report written to: " ++ output)

def scanAndSave (settings : Settings) (o : ScanOptions) : Run Unit := do
  let root ← pathOf (((given? o.directory).map .text).getD settings.sourceDir)
  let copy ← match given? o.output with
    | some output => (fun (path, format) => some (output, path, format)) <$> copyOf output
    | none => pure none
  echo "🚀 Starting duplicate code analysis..."
  echo ("🔍 Scanning " ++ root.text ++ " for source files...")
  let r ← scanTree settings root o.quiet
  echo (← rendered .text settings r)
  let reportPath ← pathOf settings.reportPath
  save settings r reportPath
  echo ("📄 Detailed report saved to: " ++ reportPath.text)
  match copy with
  | some (output, path, format) => writeCopy settings r output path format
  | none => pure ()

/-! ## Reading the saved report -/

def loadReport (settings : Settings) : Run (Option Value) := do
  match Store.load (← disk) (← pathOf settings.reportPath) with
  | .ok artifact => return some artifact
  | .error f =>
    match f with
    | .notFound _ => return none
    | _ =>
      if f.isUnusable then refuse ("❌ Could not read report: " ++ f.message)
      else throw (.crash (.store f))

def statusLine (path : Path) : Utility.Status → String
  | .present => "⚠️  File exists: " ++ path.text ++ " (skipping)"
  | .planned => "✨ Would create: " ++ path.text
  | .created => "✨ Creating: " ++ path.text

def creationHint : List String := [
  Utility.doubleRule,
  "💡 To create utility file templates, run:",
  "   cdf suggest --create",
  "\n   This will create stub files that you can fill in with the actual refactored code.",
  Utility.doubleRule]

def createTemplates (settings : Settings) (dryRun : Bool) (templates : List Utility.Template) :
    Run Unit := do
  echo "\n🏗️  Creating utility files...\n"
  let dir ← pathOf settings.utilitiesDir
  let creation := Utility.Creation.run dryRun dir (← disk) templates
  setDisk creation.disk
  tell (creation.records dir)
  match creation.fault with
  | some f => throw (.crash (.file f))
  | none =>
    creation.results.forM fun (path, status) => echo (statusLine path status)
    if !dryRun then
      echo ("\n✅ Utility file templates created in " ++ settings.utilitiesDir.display ++ "/")

def suggestFrom (settings : Settings) (now : Timestamp) (create dryRun : Bool) : Run Unit := do
  match ← loadReport settings with
  | none =>
    complain "❌ No duplication report found!"
    refuse "   Run: cdf analyze first"
  | some artifact =>
    echo "📖 Reading duplication report..."
    echo ("Found " ++ Numeral.text ((Store.duplicates? artifact).getD []).length ++
      " duplicate patterns")
    let templates ← need .value (Utility.templates artifact now)
    echo (← need .value (Utility.suggestions artifact settings.utilitiesDir (.ok templates)))
    if create then createTemplates settings dryRun templates
    else creationHint.forM echo

/-! ## Commands -/

def analyze (o : ScanOptions) : Run Unit := do
  checkOperands o
  scanAndSave (← configure o.changes) o

def full (now : Timestamp) (o : ScanOptions) : Run Unit := do
  checkOperands o
  let settings ← configure o.changes
  scanAndSave settings o
  suggestFrom settings now false false

def suggest (now : Timestamp) (o : SuggestOptions) : Run Unit := do
  suggestFrom (← configure o.changes) now o.create o.dryRun

def view (report : Option String) : Run Unit := do
  let settings ← configure (reportChanges report)
  match ← loadReport settings with
  | none => echo "⚠️  No report found. Run analysis first (cdf analyze)."
  | some artifact =>
    echo "📊 Report Summary:"
    echo ""
    (← need .value (Report.summaryLines artifact)).forM echo
    echo ""
    echo ("Full report: " ++ settings.reportPath.display)

def clean (report : Option String) : Run Unit := do
  let settings ← configure (reportChanges report)
  let (after, found) ← need .file (Store.clear (← disk) (← pathOf settings.reportPath))
  setDisk after
  echo (if found then "🗑️  Report cleaned" else "   No report to clean")

def perform (now : Timestamp) : Request → Run Unit
  | .help => echo usage
  | .version => echo versionText
  | .analyze o => analyze o
  | .full o => full now o
  | .suggest o => suggest now o
  | .view report => view report
  | .clean report => clean report

def ofArguments (now : Timestamp) (args : List String) : Run Unit :=
  match Invocation.ofArguments args with
  | .ok invocation => perform now invocation.request
  | .error f => throw (.usage f)

/-- The level in force; a command line that cannot be read asks for nothing. -/
def levelOf (args : List String) : Level :=
  match Invocation.ofArguments args with
  | .ok invocation => if invocation.verbose then .debug else .warning
  | .error _ => .warning

end CloneScan.Command
