import CloneScan.Proofs.History
import CloneScan.Proofs.SettingsTable
import CloneScan.Proofs.Steadiness

/-! One command for two. `full` goes on after its analysis with the settings that it has, while
`suggest` finds its own and reads them from the disk that the analysis left. Both come to the same
directory and the same report, so they say the same. -/
namespace CloneScan.Command

open Run

/-! ## The way of one command -/

theorem full_eq (now : Timestamp) (o : ScanOptions) : full now o =
    survey o >>= fun v => keep v >>= fun _ => suggestFrom v.settings now false false :=
  scanAndSave_eq o fun settings => suggestFrom settings now false false

variable {o : ScanOptions} {s t : State} {d : Disk} {now : Timestamp}

/-- Where the analysis stops, so does all of it. -/
theorem full_of_stopped {why : Stop} (stopped : exec (analyze o) s = (.error why, t)) :
    exec (full now o) s = (.error why, t) := by
  rw [analyze_eq, exec_bind] at stopped
  rw [full_eq, exec_bind]
  rcases surveyed : exec (survey o) s with ⟨earlier | v, u⟩
  all_goals rw [surveyed] at stopped
  · exact stopped
  · dsimp only at stopped ⊢
    rw [exec_bind, stopped]

/-- Where the analysis comes to its end, suggestions by its settings follow. -/
theorem full_of_finished (run : exec (analyze o) s = (.ok (), t)) :
    ∃ v, Surveyed o s.disk v ∧
      (s.disk.FilesChangedAt (fun place => Store.Reaches s.disk v.path place ∨
        ∃ c ∈ v.copy, s.disk.locate c.2.1 = .ok place) t.disk) ∧
      exec (full now o) s = exec (suggestFrom v.settings now false false) t := by
  rw [analyze_eq] at run
  obtain ⟨v, u, surveyed, kept⟩ := exec_bind_eq_ok.mp run
  have found := survey_eq_ok surveyed
  have quiet := (quiet_survey o).disk_eq surveyed
  rw [← quiet] at found ⊢
  have step := keep_filesChangedAt found
  rw [kept] at step
  refine ⟨v, found, step, ?_⟩
  rw [full_eq, exec_bind, surveyed]
  dsimp only
  rw [exec_bind, kept]

/-- Of the settings only the two paths matter for suggestions. -/
theorem suggestFrom_congr {a b : Settings} (report : a.reportPath = b.reportPath)
    (utilities : a.utilitiesDir = b.utilitiesDir) :
    suggestFrom a now false false = suggestFrom b now false false := by
  simp only [suggestFrom, loadReport, report, utilities, Bool.false_eq_true, if_false]

/-! ## The way of two commands -/

def suggestOn (r : String) : SuggestOptions where
  create := false
  dryRun := false
  report := some r
  utilitiesDir := none

theorem suggestOn_read (r : String) :
    Invocation.ofArguments ["suggest", "-r", r] = .ok ⟨false, .suggest (suggestOn r)⟩ := rfl

/-- The configuration outlives an analysis whose report is no settings file that counts, neither
before nor afterwards. -/
theorem configured_of_kept {v : Survey} {e : Disk} {base : Settings} (found : Surveyed o d v)
    (configured : Configured d base)
    (step : d.FilesChangedAt (fun place => Store.Reaches d v.path place ∨
      ∃ c ∈ v.copy, d.locate c.2.1 = .ok place) e)
    (apart : ∀ place, d.locate v.path = .ok place →
      SettingsFile.nearest d.top d.here ≠ some place ∧
      SettingsFile.nearest e.top d.here ≠ some place) : Configured e base := by
  have outside {top : Node} {place : Location}
      (nearby : SettingsFile.nearest top d.here = some place)
      (other : d.locate v.path ≠ .ok place) : ¬ (Store.Reaches d v.path place ∨
        ∃ c ∈ v.copy, d.locate c.2.1 = .ok place) := by
    have candidate := SettingsFile.candidate_of_nearest nearby
    rintro ((leads | ⟨beside, named, leads⟩) | ⟨c, asked, leads⟩)
    · exact other leads
    · obtain ⟨above, _, _, rfl⟩ := (Disk.beside_of_locate named leads).place
      exact SettingsFile.beside_not_candidate _ candidate
    · obtain ⟨_, _, extension⟩ := found.copy c asked
      have named := Path.endsInName_of_extension extension
      obtain ⟨above, _, _, rfl⟩ := Disk.locate_named named leads
      exact SettingsFile.copy_not_candidate extension candidate
  refine configured.congr step (fun place nearby => ?_) fun place nearby => ?_
  · exact outside nearby fun leads => (apart place leads).1 nearby
  · exact outside nearby fun leads => (apart place leads).2 nearby

structure Outcome.Joins (first second whole : Outcome) : Prop where
  ending : whole.ending = second.ending
  out : whole.state.out = first.state.out ++ second.state.out
  err : whole.state.err = first.state.err ++ second.state.err
  disk : whole.state.disk = second.state.disk

theorem full_joins {r : String} {settings : Settings} {first : State}
    (run : exec (analyze o) { disk := d } = (.ok (), first)) (inForce : InForce d o.changes settings)
    (textual : settings.reportPath = .text r)
    (apart : ∀ place, d.locate (.ofText r) = .ok place →
      SettingsFile.nearest d.top d.here ≠ some place ∧
      SettingsFile.nearest first.disk.top d.here ≠ some place) :
    Outcome.Joins ⟨first, .finished⟩ ((suggest now (suggestOn r)).outcome first.disk)
      ((full now o).outcome d) := by
  obtain ⟨v, found, step, whole⟩ := @full_of_finished o _ _ now run
  obtain ⟨base, configured, replaced⟩ := found.inForce.configured
  obtain rfl := inForce.unique found.inForce
  have path : v.path = .ofText r := by
    obtain ⟨text, named, path⟩ := found.path
    rw [textual] at named
    rw [path, Value.text.inj named]
  have still : Configured first.disk base :=
    configured_of_kept found configured step (by rwa [path])
  have report : v.settings.reportPath = (withPaths base (some r) none).reportPath := textual
  have utilities : v.settings.utilitiesDir = (withPaths base (some r) none).utilitiesDir :=
    (utilitiesDir_of_replace replaced).trans rfl
  obtain ⟨log, settled⟩ := exec_configure (s := { disk := first.disk }) still
    (replace_suggestChanges base (suggestOn r))
  obtain ⟨result, words, told⟩ :=
    steady_suggestFrom (withPaths base (some r) none) now first.disk
  have advice : exec (suggest now (suggestOn r)) { disk := first.disk } =
      (result, ({ disk := first.disk, log } : State).adding words) := by
    rw [suggest, exec_bind, settled]
    exact told _ rfl
  rw [suggestFrom_congr report utilities, told first rfl] at whole
  rw [outcome_eq, outcome_eq, whole, advice]
  cases result <;> exact ⟨rfl, by simp [State.adding], by simp [State.adding], rfl⟩

/-! ## Command lines -/

def Request.continued : Request → Request
  | .analyze o => .full o
  | request => request

def Invocation.continued (i : Invocation) : Invocation := { i with request := i.request.continued }

/-- The two commands read their options alike. -/
theorem ofArguments_full (options : List String) :
    Invocation.ofArguments ("full" :: options) =
      (Invocation.ofArguments ("analyze" :: options)).map Invocation.continued := by
  have analyzing : Invocation.ofArguments ("analyze" :: options) =
      (readCommand scanSpellings (fun g => .analyze <$> ScanOptions.ofGiven g) options).map
        (Invocation.mk false) := rfl
  have going : Invocation.ofArguments ("full" :: options) =
      (readCommand scanSpellings (fun g => .full <$> ScanOptions.ofGiven g) options).map
        (Invocation.mk false) := rfl
  rw [analyzing, going, readCommand, readCommand]
  cases scan scanSpellings true none options with
  | error f => rfl
  | ok given =>
    simp only [bind, Except.bind]
    cases atOnce : given.atOnce? with
    | some request =>
      rcases Given.atOnce?_eq_some atOnce with rfl | rfl
      · rfl
      · rfl
    | none =>
      cases ScanOptions.ofGiven given with
      | error f => rfl
      | ok o => rfl

/-- The report of the analysis that some options ask for. -/
def ReportsAt (options : List String) (d : Disk) (r : String) : Prop :=
  ∃ verbose o settings, Invocation.ofArguments ("analyze" :: options) = .ok ⟨verbose, .analyze o⟩ ∧
    InForce d o.changes settings ∧ settings.reportPath = .text r

theorem asksToAnalyze (options : List String) : AsksToAnalyze ("analyze" :: options) := by
  intro given scanned
  cases scanned
  exact ⟨options, rfl⟩

/-- What the two commands perform for the same options. -/
theorem performed_of_read {options : List String} {i : Invocation}
    (read : Invocation.ofArguments ("analyze" :: options) = .ok i) :
    ofArguments now ("analyze" :: options) = perform now i.request ∧
      ofArguments now ("full" :: options) = perform now i.request.continued := by
  have going : Invocation.ofArguments ("full" :: options) = .ok i.continued := by
    rw [ofArguments_full, read]
    rfl
  constructor
  · simp only [ofArguments, read]
  · simp only [ofArguments, going]
    rfl

theorem analysis_here {options : List String} {verbose : Bool} {o : ScanOptions}
    (read : Invocation.ofArguments ("analyze" :: options) = .ok ⟨verbose, .analyze o⟩) :
    ((ofArguments now ("analyze" :: options)).outcome d).state.disk.here = d.here := by
  rw [(@performed_of_read now options _ read).1, perform, outcome_state]
  exact (analyze_filesChangedAt o { disk := d }).here

/-- Where the analysis does not come to its end, the two commands come to the same. -/
theorem full_outcome_of_failed {options : List String}
    (failed : ((ofArguments now ("analyze" :: options)).outcome d).ending ≠ .finished) :
    (ofArguments now ("full" :: options)).outcome d =
      (ofArguments now ("analyze" :: options)).outcome d := by
  cases read : Invocation.ofArguments ("analyze" :: options) with
  | error f =>
    have going : Invocation.ofArguments ("full" :: options) = .error f := by
      rw [ofArguments_full, read]
      rfl
    simp only [ofArguments, read, going]
  | ok invocation =>
    obtain ⟨first, second⟩ := @performed_of_read now options invocation read
    rw [first] at failed ⊢
    rw [second]
    rcases (asksToAnalyze options).request read with help | version | ⟨o, analysis⟩
    · rw [help]
      rfl
    · rw [version]
      rfl
    · rw [analysis] at failed ⊢
      rw [Request.continued, perform, perform, outcome_eq, outcome_eq]
      rw [perform, outcome_eq] at failed
      rcases run : exec (analyze o) { disk := d } with ⟨why | _, t⟩
      · rw [full_of_stopped run]
      · rw [run] at failed
        exact absurd rfl failed

/-- `full` does what an analysis with its options does and then what `suggest` does on the report of
that analysis, at the same time. Where the analysis fails, `full` fails in the same way. All it takes
is that the report is no settings file that counts, neither for the analysis nor for `suggest`. -/
theorem full_analyzes_then_suggests (now : Timestamp) (options : List String) (d : Disk) :
    let analysis := (ofArguments now ("analyze" :: options)).outcome d
    let whole := (ofArguments now ("full" :: options)).outcome d
    (analysis.ending ≠ .finished → whole = analysis) ∧
      ∀ r, analysis.ending = .finished → ReportsAt options d r →
        (∀ place, d.locate (.ofText r) = .ok place →
          SettingsFile.nearest d.top d.here ≠ some place ∧
          SettingsFile.nearest analysis.state.disk.top analysis.state.disk.here ≠ some place) →
        let advice := (ofArguments now ["suggest", "-r", r]).outcome analysis.state.disk
        whole.ending = advice.ending ∧
          whole.state.out = analysis.state.out ++ advice.state.out ∧
          whole.state.err = analysis.state.err ++ advice.state.err ∧
          whole.state.disk = advice.state.disk := by
  intro analysis whole
  refine ⟨full_outcome_of_failed, ?_⟩
  rintro r finished ⟨verbose, o, settings, read, inForce, textual⟩ apart advice
  obtain ⟨first, second⟩ := @performed_of_read now options _ read
  have suggesting : ofArguments now ["suggest", "-r", r] = suggest now (suggestOn r) := by
    simp only [ofArguments, suggestOn_read]
    rfl
  obtain ⟨s, done⟩ : ∃ s, analysis = ⟨s, .finished⟩ := ⟨analysis.state, by rw [← finished]⟩
  have run : exec (analyze o) { disk := d } = (.ok (), s) := by
    refine outcome_eq_finished.mp ?_
    rw [← done]
    exact (congrArg (Run.outcome · d) first).symm
  rw [@analysis_here d now options verbose o read, done] at apart
  have joins := @full_joins o d now r settings s run inForce textual apart
  have wholly : whole = (full now o).outcome d := congrArg (Run.outcome · d) second
  have advising : advice = (suggest now (suggestOn r)).outcome s.disk := by
    simp only [advice, done, suggesting]
  rw [wholly, advising, done]
  exact ⟨joins.ending, joins.out, joins.err, joins.disk⟩

def longWord : List UInt8 := List.replicate 100 0x78 ++ List.replicate 5 0x0a

/-- Two files with that word, and a settings file that sends utilities to the directory of the second. -/
def copiesBeside : Disk := { top := .directory [
  (".cdfrc", .file (Text.Utf8.encode "[cdf]\nutils_dir='lib'")),
  ("a.ts", .file longWord), ("lib", .directory [("b.ts", .file longWord)])] }

def wordOptions : List String := [".", "-q", "--min-tokens", "1", "-r", "r.json"]

def wordScan : ScanOptions := { quietScan "." "r.json" with minTokens := some 1 }

def wordSettings : Settings := { Settings.default with
  minTokens := ⟨1, by decide⟩
  utilitiesDir := .text "lib"
  reportPath := .text "r.json" }

def wordAnalysis : Outcome := (ofArguments newYear ("analyze" :: wordOptions)).outcome copiesBeside

def goneAnalysis : Outcome := (ofArguments newYear ["analyze", "gone"]).outcome copiesBeside

theorem wordScan_inForce : InForce copiesBeside wordScan.changes wordSettings := by
  have counts : SettingsFile.search copiesBeside (.ofText ".") = .ok (some [".cdfrc"]) := rfl
  have read : Toml.read "[cdf]\nutils_dir='lib'" =
      .ok [("cdf", .record [("utils_dir", .text "lib")])] := rfl
  have loaded : SettingsFile.load copiesBeside (.ofText ".") =
      .ok (.loaded [".cdfrc"] (.record [("utils_dir", .text "lib")])) := by
    rw [SettingsFile.load, counts]
    exact SettingsFile.ofContent_of_document (Text.Utf8.decode_encode _) read
  exact ⟨_, _, loaded, rfl, rfl⟩

/-- With copies to find and a directory for utilities, and with a directory to scan that is not there. -/
theorem copies_full_analyzes_then_suggests :
    let advice := (ofArguments newYear ["suggest", "-r", "r.json"]).outcome wordAnalysis.state.disk
    let whole := (ofArguments newYear ("full" :: wordOptions)).outcome copiesBeside
    ((∃ a, Analysis.run wordSettings copiesBeside (.ofText ".") "." = .ok a ∧
        a.report.groups.length = 1) ∧
      wordAnalysis.ending = .finished ∧ ReportsAt wordOptions copiesBeside "r.json" ∧
      whole.ending = advice.ending ∧
      whole.state.out = wordAnalysis.state.out ++ advice.state.out ∧
      whole.state.err = wordAnalysis.state.err ++ advice.state.err ∧
      whole.state.disk = advice.state.disk) ∧
    goneAnalysis.ending ≠ .finished ∧
      (ofArguments newYear ["full", "gone"]).outcome copiesBeside = goneAnalysis := by
  have found : ∃ a, Analysis.run wordSettings copiesBeside (.ofText ".") "." = .ok a ∧
      a.report.groups.length = 1 := by
    have counted : ((Analysis.run wordSettings copiesBeside (.ofText ".") ".").toOption.map
        fun a => a.report.groups.length) = some 1 := by decide +kernel
    cases run : Analysis.run wordSettings copiesBeside (.ofText ".") "." with
    | error f =>
      rw [run] at counted
      cases counted
    | ok a =>
      rw [run] at counted
      exact ⟨a, rfl, Option.some.inj counted⟩
  have finished : wordAnalysis.ending = .finished := by decide +kernel
  have stopped : goneAnalysis.ending ≠ .finished := by decide +kernel
  have reports : ReportsAt wordOptions copiesBeside "r.json" :=
    ⟨false, wordScan, wordSettings, rfl, wordScan_inForce, rfl⟩
  have apart {e : Disk} (here : e.here = []) : SettingsFile.nearest e.top e.here ≠ some ["r.json"] := by
    intro nearby
    rw [here] at nearby
    exact absurd (SettingsFile.candidate_of_nearest nearby) (by decide)
  have kept : copiesBeside.locate (.ofText "r.json") = .ok ["r.json"] := rfl
  have joined := (full_analyzes_then_suggests newYear wordOptions copiesBeside).2 "r.json"
    finished reports fun place leads => by
      obtain rfl := Except.ok.inj (kept.symm.trans leads)
      exact ⟨apart rfl, apart (analysis_here rfl)⟩
  have failing := (full_analyzes_then_suggests newYear ["gone"] copiesBeside).1 stopped
  exact ⟨⟨found, finished, reports, joined⟩, stopped, failing⟩

end CloneScan.Command
