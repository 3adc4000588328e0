import CloneScan.Proofs.Footprint
import CloneScan.Proofs.History
import CloneScan.Proofs.Isolation
import CloneScan.Proofs.Renewal
import CloneScan.Proofs.Steadiness

/-! The same analysis once more. It reads the settings file that counts and the files that its search
finds. As long as it writes to none of them, it meets the disk that it left as it met the disk before,
says the same and writes what stands there already. -/
namespace CloneScan

namespace Node

theorem fileAt?_append {front : Location} {n below : Node} (found : n.at? front = some below)
    (back : Location) : n.fileAt? (front ++ back) = below.fileAt? back := by
  rw [fileAt?, at?_append, found, Option.bind_some, fileAt?]

end Node

namespace Disk

variable {d e : Disk} {p : Path} {changed : Location → Prop}

theorem isDirectory_eq_true :
    d.isDirectory p = .ok true ↔
      ∃ place, d.locate p = .ok place ∧ d.top.isDirectoryAt place = true := by
  rw [isDirectory, look, node?]
  cases d.locate p with
  | ok place => simp [Except.map, Node.isDirectoryAt]
  | error cause => cases cause <;> simp [Except.map]

/-- A path that leads to a directory does so after changes to files. -/
theorem FilesChangedAt.isDirectory (step : d.FilesChangedAt changed e)
    (directory : d.isDirectory p = .ok true) : e.isDirectory p = .ok true := by
  obtain ⟨place, leads, inside⟩ := isDirectory_eq_true.mp directory
  exact isDirectory_eq_true.mpr
    ⟨place, (step.paths p place).mpr leads, (step.directories place).trans inside⟩

theorem not_isFile_of_isDirectory (directory : d.isDirectory p = .ok true) :
    (d.node? p).any Node.isFile = false := by
  obtain ⟨place, leads, inside⟩ := isDirectory_eq_true.mp directory
  obtain ⟨n, stands, kind⟩ := (Option.any_eq_true ..).mp inside
  rw [node?, leads]
  cases n with
  | file content => cases kind
  | directory entries => simp [stands, Node.isFile]

end Disk

/-- A search finds what it found before, unless one of its files has changed or it finds a file that
has. -/
theorem Discovery.find_again {d e : Disk} {changed : Location → Prop}
    (step : d.FilesChangedAt changed e) (hd : d.top.WellNamed) (he : e.top.WellNamed) {root : Path}
    {above : Location} (leads : d.locate root = .ok above)
    (inside : d.top.isDirectoryAt above = true) {extensions excluded : List Value}
    {sources : List Node.Source} (found : find d root extensions excluded = .ok sources)
    (before : ∀ s ∈ sources, ¬ changed (above ++ s.place))
    (after : ∀ others, find e root extensions excluded = .ok others →
      ∀ s ∈ others, ¬ changed (above ++ s.place)) :
    find e root extensions excluded = .ok sources := by
  have insideStill : e.top.isDirectoryAt above = true := (step.directories above).trans inside
  obtain ⟨top, there, kind⟩ := (Option.any_eq_true ..).mp inside
  obtain ⟨bottom, thereStill, kindStill⟩ := (Option.any_eq_true ..).mp insideStill
  have named := Node.wellNamed_at? hd there
  have namedStill := Node.wellNamed_at? he thereStill
  have left : d.Rooted root top := ⟨by rw [Disk.node?, leads]; exact there, kind, named⟩
  have leadsStill := (step.paths root above).mpr leads
  have right : e.Rooted root bottom :=
    ⟨by rw [Disk.node?, leadsStill]; exact thereStill, kindStill, namedStill⟩
  have same {place : Location} (kept : ¬ changed (above ++ place)) :
      bottom.fileAt? place = top.fileAt? place := by
    rw [← Node.fileAt?_append thereStill, ← Node.fileAt?_append there]
    exact Node.fileAt?_congr (step.places _ kept)
  rw [find_rooted left] at found
  rw [find_rooted right] at after ⊢
  cases lowered : lowerExtensions extensions with
  | error f => rw [lowered] at found; cases found
  | ok wanted =>
    cases names : excludedNames excluded with
    | error f => rw [lowered, names] at found; cases found
    | ok excluded =>
      rw [lowered, names] at found after
      obtain rfl := Except.ok.inj found
      refine congrArg Except.ok (Node.eq_of_ordered (Node.sources_ordered namedStill)
        (Node.sources_ordered named) fun s => ⟨fun member => ?_, fun member => ?_⟩)
      · have kept := same (after _ rfl s member)
        rw [Node.mem_sources namedStill, kept] at member
        exact (Node.mem_sources named).mpr member
      · have kept := same (before s member)
        rw [Node.mem_sources named, ← kept] at member
        exact (Node.mem_sources namedStill).mpr member

namespace Command

open Run

/-! ## What an analysis reads -/

/-- Where an analysis by some settings finds the files that it scans. -/
def ScanOptions.Scans (o : ScanOptions) (settings : Settings) (d : Disk) (place : Location) : Prop :=
  ∃ root above sources, ((given? o.directory).map .text).getD settings.sourceDir = .text root ∧
    d.locate (.ofText root) = .ok above ∧
    Discovery.find d (.ofText root) settings.extensions settings.excludedDirs = .ok sources ∧
    ∃ s ∈ sources, place = above ++ s.place

/-- What an analysis reads: the settings file that counts, and the files that it scans. -/
def ScanOptions.Reads (o : ScanOptions) (d : Disk) (place : Location) : Prop :=
  SettingsFile.nearest d.top d.here = some place ∨
    ∃ settings, InForce d o.changes settings ∧ o.Scans settings d place

def Reads (args : List String) (d : Disk) (place : Location) : Prop :=
  ∃ verbose o, Invocation.ofArguments args = .ok ⟨verbose, .analyze o⟩ ∧ o.Reads d place

structure Unread (o : ScanOptions) (changed : Location → Prop) (d e : Disk) : Prop where
  step : d.FilesChangedAt changed e
  wellNamed : d.top.WellNamed ∧ e.top.WellNamed
  before : ∀ place, changed place → ¬ o.Reads d place
  after : ∀ place, changed place → ¬ o.Reads e place

variable {o : ScanOptions} {changed : Location → Prop} {d e : Disk} {v : Survey} {s t : State}

theorem Unread.load (unread : Unread o changed d e) :
    SettingsFile.load e (.ofText ".") = SettingsFile.load d (.ofText ".") := by
  refine SettingsFile.load_congr unread.step (fun found nearby hit => ?_) fun found nearby hit => ?_
  · exact unread.before found hit (.inl nearby)
  · refine unread.after found hit (.inl ?_)
    rw [unread.step.here]
    exact nearby

theorem Unread.inForce (unread : Unread o changed d e) {settings : Settings} :
    InForce e o.changes settings ↔ InForce d o.changes settings := by
  simp only [InForce, unread.load]

theorem Unread.run (unread : Unread o changed d e) {settings : Settings} {root : String}
    {a : Analysis} (inForce : InForce d o.changes settings)
    (textual : ((given? o.directory).map .text).getD settings.sourceDir = .text root)
    (done : Analysis.run settings d (.ofText root) (Path.ofText root).text = .ok a) :
    Analysis.run settings e (.ofText root) (Path.ofText root).text = .ok a := by
  obtain ⟨directory, sources, found, rfl⟩ := Analysis.run_eq_ok_iff.mp done
  obtain ⟨above, leads, inside⟩ := Disk.isDirectory_eq_true.mp directory
  refine Analysis.run_eq_ok_iff.mpr ⟨unread.step.isDirectory directory, sources, ?_, rfl⟩
  refine Discovery.find_again unread.step unread.wellNamed.1 unread.wellNamed.2 leads inside found
    (fun s member hit => ?_) fun others again s member hit => ?_
  · exact unread.before _ hit
      (.inr ⟨settings, inForce, root, above, sources, textual, leads, found, s, member, rfl⟩)
  · have inForceStill := unread.inForce.mpr inForce
    have leadsStill := (unread.step.paths _ _).mpr leads
    exact unread.after _ hit
      (.inr ⟨settings, inForceStill, root, above, others, textual, leadsStill, again, s, member, rfl⟩)

/-! ## The same steps again -/

/-- No file is in the way of an analysis whose root is a directory. An empty text names no root, but no
file either. -/
theorem not_blocked {settings : Settings} {root : String}
    (textual : ((given? o.directory).map .text).getD settings.sourceDir = .text root)
    (directory : d.isDirectory (.ofText root) = .ok true) :
    ∀ path ∈ o.directory,
      ((d.node? (.ofText path)).any Node.isFile && !spelledAsDirectory path) = false := by
  intro path named
  by_cases empty : path = ""
  · have spelled : spelledAsDirectory "" = true := by decide
    rw [empty, spelled, Bool.not_true, Bool.and_false]
  · have given : given? o.directory = some path := by
      rw [given?, Option.mem_def.mp named]
      simp [empty]
    rw [given] at textual
    obtain rfl : path = root := Value.text.inj textual
    rw [Disk.not_isFile_of_isDirectory directory, Bool.false_and]

/-- A survey that came to its end comes to the same end on a disk that it reads alike. -/
theorem survey_again (unread : Unread o changed s.disk e)
    (run : exec (survey o) s = (.ok v, t)) :
    exec (survey o) { s with disk := e } = (.ok v, { t with disk := e }) := by
  obtain ⟨inForce, ⟨root, a, textual, done, _⟩, _⟩ := survey_settles run
  have again := unread.run inForce textual done
  have directory := (Analysis.run_eq_ok_iff.mp done).1
  have still := unread.step.isDirectory directory
  let disks : Disk → Prop := fun f => f = s.disk ∨ f = e
  have operands : Steady disks (checkOperands o) := by
    refine steady_checkOperands s.disk ?_
    rintro path named f (rfl | rfl)
    · rfl
    · rw [not_blocked textual directory path named, not_blocked textual still path named]
  have settled : Steady disks (configure o.changes) := by
    refine steady_configure _ s.disk ?_ ?_
    all_goals rintro f (rfl | rfl)
    · rfl
    · exact unread.load
    · rfl
    · rw [unread.step.frame]
  refine (steady_survey operands settled ?_).again run (.inl rfl) (.inr rfl)
  intro f settings other known inForceThere textualThere
  have there : InForce s.disk o.changes settings := by
    rcases known with rfl | rfl
    · exact inForceThere
    · exact unread.inForce.mp inForceThere
  obtain rfl := inForce.unique there
  obtain rfl := Value.text.inj (textual.symm.trans textualThere)
  refine steady_scanTree _ _ _ s.disk ?_
  rintro g (rfl | rfl)
  · rfl
  · rw [again, done]

theorem writeCopy_eq_ok {settings : Settings} {r : Report} {output : String} {path : Path}
    {format : Report.Format} :
    exec (writeCopy settings r output path format) s = (.ok (), t) ↔
      ∃ text after, r.render format settings = .ok text ∧
        s.disk.write path (Text.Utf8.encode text) = .ok after ∧
        exec (echo ("   ✅ Report written to: " ++ output)) { s with disk := after } = (.ok (), t) := by
  simp only [writeCopy, rendered, exec_bind_eq_ok, exec_need_eq_ok]
  constructor
  · rintro ⟨text, _, ⟨made, rfl⟩, _, _, ⟨⟩, after, _, ⟨wrote, rfl⟩, _, _, ⟨⟩, said⟩
    exact ⟨text, after, made, wrote, said⟩
  · rintro ⟨text, after, made, wrote, said⟩
    exact ⟨text, s, ⟨made, rfl⟩, s.disk, s, rfl, after, s, ⟨wrote, rfl⟩, (), _, rfl, said⟩

/-- What has been kept of a survey is kept again without a trace, and the disk can still be searched. -/
theorem keep_again (valid : s.disk.top.WellNamed) (surveyed : Surveyed o s.disk v)
    (run : exec (keep v) s = (.ok (), t)) :
    exec (keep v) { s with disk := t.disk } = (.ok (), t) ∧ t.disk.top.WellNamed := by
  obtain ⟨report, _, path⟩ := surveyed.path
  simp only [keep, exec_bind, exec_save, path] at run ⊢
  rcases saved : Store.save v.settings v.report s.disk (.ofText report) with ⟨after, _ | f⟩
  all_goals rw [saved] at run
  · obtain ⟨place, text, ready, _⟩ := Store.ready_of_saved valid saved
    cases asked : v.copy with
    | none =>
      simp only [asked, exec_echo, exec_pure] at run ⊢
      obtain rfl := (Prod.mk.inj run).2
      refine ⟨?_, ready.wellNamed⟩
      simp only [Store.save_again valid saved]
    | some c =>
      obtain ⟨output, target, format⟩ := c
      obtain ⟨_, spelled, extension⟩ := surveyed.copy _ asked
      dsimp only at spelled extension
      subst spelled
      simp only [asked, exec_echo] at run ⊢
      obtain ⟨copied, last, made, wrote, said⟩ := writeCopy_eq_ok.mp run
      rw [exec_echo] at said
      obtain rfl := (Prod.mk.inj said).2
      obtain ⟨mid, again, rewritten⟩ := Store.save_and_copy_again valid saved extension wrote
      refine ⟨?_, (ready.write extension wrote).wellNamed⟩
      simp only [again]
      exact writeCopy_eq_ok.mpr ⟨copied, last, made, rewritten, rfl⟩
  · cases run

/-- An analysis that has come to its end comes to the same end once more, and leaves the disk as it
is. -/
theorem analyze_again (valid : s.disk.top.WellNamed) (run : exec (analyze o) s = (.ok (), t))
    (apart : ∀ place, o.MayWrite s.disk place → ¬ o.Reads s.disk place ∧ ¬ o.Reads t.disk place) :
    exec (analyze o) { s with disk := t.disk } = (.ok (), t) := by
  have step := analyze_filesChangedAt o s
  rw [run] at step
  rw [analyze_eq] at run ⊢
  obtain ⟨v, u, surveyed, kept⟩ := exec_bind_eq_ok.mp run
  have same := (quiet_survey o).disk_eq surveyed
  have found := survey_eq_ok surveyed
  rw [← same] at found valid
  obtain ⟨again, validStill⟩ := keep_again valid found kept
  rw [same] at valid
  have unread : Unread o (o.MayWrite s.disk) s.disk t.disk :=
    ⟨step, ⟨valid, validStill⟩, fun place hit => (apart place hit).1, fun place hit =>
      (apart place hit).2⟩
  exact exec_bind_eq_ok.mpr ⟨v, _, survey_again unread surveyed, again⟩

/-- An analysis that has come to its end, given once more at any time, does all of it again: it ends in
the same way, prints and logs the same and leaves everything on the disk as it is. All it takes is that
neither run reads what may be written, be it as settings or as a file to scan. -/
theorem analysis_idempotent (now later : Timestamp) {args : List String} (asked : AsksToAnalyze args)
    {d : Disk} (valid : d.top.WellNamed)
    (finished : ((ofArguments now args).outcome d).ending = .finished)
    (apart : ∀ place, MayWrite args d place → ¬ Reads args d place ∧
      ¬ Reads args ((ofArguments now args).outcome d).state.disk place) :
    (ofArguments later args).outcome ((ofArguments now args).outcome d).state.disk =
      (ofArguments now args).outcome d := by
  cases read : Invocation.ofArguments args with
  | error f =>
    simp only [ofArguments, read] at finished
    cases finished
  | ok invocation =>
    have performed (time : Timestamp) :
        ofArguments time args = perform time invocation.request := by
      simp only [ofArguments, read]
    rcases asked.request read with help | version | ⟨o, analysis⟩
    · rw [performed now, performed later, help]
      rfl
    · rw [performed now, performed later, version]
      rfl
    · have analyzing (time : Timestamp) : ofArguments time args = analyze o := by
        rw [performed time, analysis]
        rfl
      have called : Invocation.ofArguments args = .ok ⟨invocation.verbose, .analyze o⟩ := by
        rw [read, ← analysis]
      rw [analyzing now] at finished apart ⊢
      rw [analyzing later]
      obtain ⟨s, whole⟩ : ∃ s, (analyze o).outcome d = ⟨s, .finished⟩ :=
        ⟨((analyze o).outcome d).state, by rw [← finished]⟩
      rw [whole] at apart ⊢
      have run := outcome_eq_finished.mp whole
      refine outcome_eq_finished.mpr (analyze_again valid run fun place hit => ?_)
      obtain ⟨before, after⟩ := apart place ⟨invocation.verbose, o, called, hit⟩
      exact ⟨fun seen => before ⟨_, o, called, seen⟩, fun seen => after ⟨_, o, called, seen⟩⟩

/-! ## A worked analysis -/

def workplace : Disk := { top := .directory [("a.ts", .file [0x78]), ("r.json", .file [0xFF])] }

def copyingScan : ScanOptions := { quietScan "." "r.json" with output := some "copy.md" }

theorem copyingArguments_read :
    Invocation.ofArguments (copyingArguments "copy.md") = .ok ⟨false, .analyze copyingScan⟩ := rfl

/-- The settings of such an analysis where there is no settings file. -/
theorem copyingScan_inForce {settings : Settings}
    (bare : SettingsFile.load d (.ofText ".") = .ok .nothing)
    (inForce : InForce d copyingScan.changes settings) :
    settings = withPaths .default (some "r.json") none := by
  obtain ⟨finding, fields, loaded, table, checked⟩ := inForce
  obtain rfl := Except.ok.inj (bare.symm.trans loaded)
  obtain rfl : fields = [] := (Value.record.inj table).symm
  exact (Except.ok.inj checked).symm

/-- Where no settings file counts, and the files can be asked for one, nothing is found. -/
theorem load_of_nearest_none (unsettled : SettingsFile.nearest d.top d.here = none)
    (short : ∀ place ∈ SettingsFile.candidates d.here,
      d.locate ⟨.root, place⟩ ≠ .error .nameTooLong) :
    SettingsFile.load d (.ofText ".") = .ok .nothing := by
  have askable : SettingsFile.Askable d (.ofText ".") := by
    refine ⟨by decide, fun candidate asked => short candidate ?_⟩
    obtain ⟨before, front, _⟩ := asked
    exact front.subset (by simp)
  have here : d.resolve (.ofText ".") = d.here := rfl
  rw [SettingsFile.load, SettingsFile.search_eq_ok_iff.mpr ⟨askable, rfl⟩, here, unsettled]
  rfl

theorem copyingScan_reads {found : List Location} (here : d.here = [])
    (bare : SettingsFile.load d (.ofText ".") = .ok .nothing)
    (unsettled : SettingsFile.nearest d.top d.here = none)
    (scanned : (Discovery.find d (.ofText ".") Settings.default.extensions
      Settings.default.excludedDirs).toOption.map (·.map (·.place)) = some found)
    {place : Location} (seen : Reads (copyingArguments "copy.md") d place) : place ∈ found := by
  obtain ⟨verbose, o, read, seen⟩ := seen
  rw [copyingArguments_read] at read
  cases read
  rcases seen with nearby | ⟨settings, inForce, root, above, sources, textual, leads, again, s,
    member, rfl⟩
  · rw [unsettled] at nearby
    cases nearby
  · obtain rfl := copyingScan_inForce bare inForce
    obtain rfl : "." = root := Value.text.inj textual
    have top : d.locate (.ofText ".") = .ok [] := by rw [← here]; rfl
    obtain rfl := Except.ok.inj (top.symm.trans leads)
    have listed : sources.map (·.place) = found := by
      have again : Discovery.find d (.ofText ".") Settings.default.extensions
          Settings.default.excludedDirs = .ok sources := again
      rw [again] at scanned
      exact Option.some.inj scanned
    rw [← listed, List.nil_append]
    exact List.mem_map_of_mem member

theorem copyingScan_mayWrite {place : Location}
    (hit : MayWrite (copyingArguments "copy.md") workplace place) :
    place ∈ [["r.json"], ["r.json.tmp"], ["copy.md"]] := by
  obtain ⟨verbose, o, read, hit⟩ := hit
  rw [copyingArguments_read] at read
  cases read
  rcases hit with ⟨settings, report, inForce, textual, reached⟩ | ⟨output, named, leads⟩
  · obtain rfl := copyingScan_inForce rfl inForce
    obtain rfl : "r.json" = report := Value.text.inj textual
    rcases reached with leads | ⟨beside, extended, leads⟩
    · cases leads
      decide
    · cases extended
      cases leads
      decide
  · cases named
    cases leads
    decide

/-- An analysis that replaces a file by its report and writes a copy, twice. -/
theorem copying_analysis_idempotent :
    let first := (ofArguments newYear (copyingArguments "copy.md")).outcome workplace
    first.ending = .finished ∧ first.state.disk.holds (.ofText "copy.md") = .ok true ∧
      (∀ place, MayWrite (copyingArguments "copy.md") workplace place →
        ¬ Reads (copyingArguments "copy.md") workplace place ∧
        ¬ Reads (copyingArguments "copy.md") first.state.disk place) ∧
      (ofArguments newYear (copyingArguments "copy.md")).outcome first.state.disk = first := by
  intro first
  have finished : first.ending = .finished := by decide +kernel
  have asked : AsksToAnalyze (copyingArguments "copy.md") := by
    intro given scanned
    cases scanned
    exact ⟨_, rfl⟩
  have valid : workplace.top.WellNamed := by
    have source : Node.IsName "a.ts" := ⟨by decide, by decide, by decide, by decide⟩
    have report : Node.IsName "r.json" := ⟨by decide, by decide, by decide, by decide⟩
    exact ⟨by decide, source, trivial, report, trivial, trivial⟩
  have apart : ∀ place ∈ [["r.json"], ["r.json.tmp"], ["copy.md"]], place ∉ [["a.ts"]] := by decide
  have separate : ∀ place, MayWrite (copyingArguments "copy.md") workplace place →
      ¬ Reads (copyingArguments "copy.md") workplace place ∧
      ¬ Reads (copyingArguments "copy.md") first.state.disk place := by
    intro place hit
    have written := apart place (copyingScan_mayWrite hit)
    constructor
    · intro seen
      exact written (copyingScan_reads rfl rfl (by decide) (by decide +kernel) seen)
    · intro seen
      have unsettled : SettingsFile.nearest first.state.disk.top first.state.disk.here = none := by
        decide +kernel
      have bare := load_of_nearest_none unsettled (by decide +kernel)
      exact written (copyingScan_reads (by decide +kernel) bare unsettled (by decide +kernel) seen)
  exact ⟨finished, by decide +kernel, separate,
    analysis_idempotent newYear newYear asked valid finished separate⟩

end Command

end CloneScan
