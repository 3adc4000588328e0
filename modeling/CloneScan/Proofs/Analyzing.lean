import CloneScan.Proofs.FileChanges
import CloneScan.Proofs.Steadiness

/-! An analysis in two halves. The survey settles what is to be scanned, scans it and prints the report;
it writes nothing. What it has found is then kept: the report is saved, and perhaps a copy of it is
written. All that a command can answer for goes wrong in the survey. -/
namespace CloneScan

/-- An extension that chooses a form is the end of a name. -/
theorem Path.endsInName_of_extension {p : Path} {format : Report.Format}
    (extension : Report.Format.ofExtension? p.suffix = some format) : p.endsInName = true := by
  have unnamed : ∀ name ∈ ["", ".."], Report.Format.ofExtension?
      (.ofList (suffixOf name.toList)) = none := by decide
  rw [endsInName, Bool.and_eq_true, bne_iff_ne, bne_iff_ne]
  constructor
  all_goals
    intro same
    rw [suffix, same, unnamed _ (by simp)] at extension
    cases extension

namespace Command

open Run

/-- What the settings file and some changes to it come to on a disk. -/
def InForce (d : Disk) (changes : List (String × Value)) (settings : Settings) : Prop :=
  ∃ finding fields, SettingsFile.load d (.ofText ".") = .ok finding ∧
    finding.table = .record fields ∧
    (Settings.ofFields fields >>= (·.replace changes)) = .ok settings

theorem InForce.unique {d : Disk} {changes : List (String × Value)} {a b : Settings}
    (first : InForce d changes a) (second : InForce d changes b) : a = b := by
  obtain ⟨found, fields, loaded, table, made⟩ := first
  obtain ⟨other, others, again, tableAgain, madeAgain⟩ := second
  obtain rfl := Except.ok.inj (loaded.symm.trans again)
  obtain rfl := Value.record.inj (table.symm.trans tableAgain)
  exact Except.ok.inj (made.symm.trans madeAgain)

structure Survey where
  settings : Settings
  report : Report
  path : Path
  /-- The copy as it was asked for, its path and its form. -/
  copy : Option (String × Path × Report.Format)

def copyAskedFor (o : ScanOptions) : Run (Option (String × Path × Report.Format)) :=
  match given? o.output with
  | some output => (fun (path, format) => some (output, path, format)) <$> copyOf output
  | none => pure none

def survey (o : ScanOptions) : Run Survey := do
  checkOperands o
  let settings ← configure o.changes
  let root ← pathOf (((given? o.directory).map .text).getD settings.sourceDir)
  let copy ← copyAskedFor o
  echo "🚀 Starting duplicate code analysis..."
  echo ("🔍 Scanning " ++ root.text ++ " for source files...")
  let report ← scanTree settings root o.quiet
  echo (← rendered .text settings report)
  let path ← pathOf settings.reportPath
  return { settings, report, path, copy }

/-- Keeps what a survey has found. -/
def keep (v : Survey) : Run Unit := do
  save v.settings v.report v.path
  echo ("📄 Detailed report saved to: " ++ v.path.text)
  match v.copy with
  | some (output, path, format) => writeCopy v.settings v.report output path format
  | none => pure ()

/-- What a command does first that goes on with the settings of its analysis. -/
theorem scanAndSave_eq (o : ScanOptions) (next : Settings → Run α) :
    (do
      checkOperands o
      let settings ← configure o.changes
      scanAndSave settings o
      next settings) = survey o >>= fun v => keep v >>= fun _ => next v.settings := by
  cases asked : given? o.output with
  | none => simp only [scanAndSave, survey, keep, copyAskedFor, asked, bind_assoc, pure_bind]
  | some output =>
    simp only [scanAndSave, survey, keep, copyAskedFor, asked, bind_assoc, pure_bind, bind_map_left]

theorem analyze_eq (o : ScanOptions) : analyze o = survey o >>= keep := by
  have halves := scanAndSave_eq o fun _ => pure ()
  simp only [bind_pure_unit] at halves
  exact halves

/-! ## The survey -/

theorem steady_copyAskedFor {disks : Disk → Prop} (o : ScanOptions) :
    Steady disks (copyAskedFor o) := by
  unfold copyAskedFor
  cases given? o.output with
  | none => exact steady_pure none
  | some output => exact (steady_copyOf output).map _

/-- A configuration that succeeds is the one in force. -/
theorem configure_eq_ok {changes : List (String × Value)} {settings : Settings} {s t : State}
    (run : exec (configure changes) s = (.ok settings, t)) : InForce s.disk changes settings := by
  obtain ⟨_, _, ⟨⟩, run⟩ := exec_bind_eq_ok.mp run
  obtain ⟨finding, _, loaded, run⟩ := exec_bind_eq_ok.mp run
  obtain ⟨loaded, rfl⟩ := exec_need_eq_ok.mp loaded
  obtain ⟨_, _, ⟨⟩, run⟩ := exec_bind_eq_ok.mp run
  obtain ⟨fields, _, table, run⟩ := exec_bind_eq_ok.mp run
  obtain ⟨_, _, ⟨⟩, run⟩ := exec_bind_eq_ok.mp run
  refine ⟨finding, fields, loaded, ?_, ?_⟩
  · cases form : finding.table <;> rw [form] at table <;> cases table
    rfl
  · cases merged : Settings.ofFields fields >>= (·.replace changes) with
    | ok other =>
      simp only [merged, exec_pure, Prod.mk.injEq, Except.ok.injEq] at run
      rw [run.1]
    | error f =>
      simp only [merged, refuseSettings] at run
      split at run <;> cases run

/-- Where the operands are checked alike, the settings are found alike and the tree is reported on
alike, a survey does the same. -/
theorem steady_survey {disks : Disk → Prop} {o : ScanOptions}
    (operands : Steady disks (checkOperands o)) (settled : Steady disks (configure o.changes))
    (tree : ∀ d settings root, disks d → InForce d o.changes settings →
      ((given? o.directory).map .text).getD settings.sourceDir = .text root →
      Steady disks (scanTree settings (.ofText root) o.quiet)) : Steady disks (survey o) := by
  refine operands.bind fun _ => settled.bind_reached fun settings ⟨s, _, known, configured⟩ => ?_
  refine (steady_pathOf _).bind_reached fun root ⟨_, _, _, rooted⟩ => ?_
  obtain ⟨text, textual, rfl, _⟩ := exec_pathOf_eq_ok.mp rooted
  exact (steady_copyAskedFor o).bind fun _ => (steady_echo _).bind fun _ =>
    (steady_echo _).bind fun _ =>
    (tree s.disk settings text known (configure_eq_ok configured) textual).bind fun _ =>
    (steady_need _ _).bind fun _ => (steady_echo _).bind fun _ =>
    (steady_pathOf _).bind fun _ => steady_pure _

section Quiet

variable (o : ScanOptions)

theorem quiet_checkOperands : Quiet (checkOperands o) :=
  quiet_of_steady fun d => steady_checkOperands d fun _ _ _ same => by rw [same]

theorem quiet_configure (changes : List (String × Value)) : Quiet (configure changes) :=
  quiet_of_steady fun d =>
    steady_configure changes d (fun _ same => by rw [same]) fun _ same => by rw [same]

theorem quiet_survey : Quiet (survey o) := by
  refine quiet_of_steady fun d => steady_survey (steady_checkOperands d fun _ _ _ same => by rw [same])
    (steady_configure _ d (fun _ same => by rw [same]) fun _ same => by rw [same])
    fun _ _ _ _ _ _ => steady_scanTree _ _ _ d fun _ same => by rw [same]

end Quiet

structure Surveyed (o : ScanOptions) (d : Disk) (v : Survey) : Prop where
  inForce : InForce d o.changes v.settings
  path : ∃ text, v.settings.reportPath = .text text ∧ v.path = .ofText text
  copy : ∀ c ∈ v.copy, o.output = some c.1 ∧ c.2.1 = .ofText c.1 ∧
    Report.Format.ofExtension? c.2.1.suffix = some c.2.2
  scanned : ∃ root a, Analysis.run v.settings d root root.text = .ok a ∧ v.report = a.report

theorem copyAskedFor_eq_ok {o : ScanOptions} {s t : State}
    {copy : Option (String × Path × Report.Format)}
    (run : exec (copyAskedFor o) s = (.ok copy, t)) :
    ∀ c ∈ copy, o.output = some c.1 ∧ c.2.1 = .ofText c.1 ∧
      Report.Format.ofExtension? c.2.1.suffix = some c.2.2 := by
  rintro ⟨output, path, format⟩ asked
  unfold copyAskedFor at run
  cases given : given? o.output with
  | none =>
    simp only [given, exec_pure, Prod.mk.injEq, Except.ok.injEq] at run
    rw [← run.1] at asked
    cases asked
  | some output =>
    have named : o.output = some output := (Option.filter_eq_some_iff.mp given).1
    simp only [given, exec_map, Prod.mk.injEq] at run
    delta copyOf at run
    dsimp only at run
    cases extension : Report.Format.ofExtension? (Path.ofText output).suffix with
    | none =>
      rw [extension] at run
      cases run.1
    | some format =>
      rw [extension] at run
      cases run.1
      cases asked
      exact ⟨named, rfl, extension⟩

theorem scanTree_eq_ok {settings : Settings} {root : Path} {silent : Bool} {s t : State}
    {r : Report} (run : exec (scanTree settings root silent) s = (.ok r, t)) :
    ∃ a, Analysis.run settings s.disk root root.text = .ok a ∧ r = a.report := by
  obtain ⟨_, _, ⟨⟩, run⟩ := exec_bind_eq_ok.mp run
  cases analyzed : Analysis.run settings s.disk root root.text with
  | ok a =>
    simp only [analyzed] at run
    obtain ⟨_, _, ⟨⟩, run⟩ := exec_bind_eq_ok.mp run
    refine ⟨a, rfl, ?_⟩
    cases silent with
    | true => exact (Except.ok.inj (Prod.mk.inj run).1).symm
    | false =>
      obtain ⟨_, _, _, run⟩ := exec_bind_eq_ok.mp run
      exact (Except.ok.inj (Prod.mk.inj run).1).symm
  | error f =>
    simp only [analyzed] at run
    cases f <;>
    · obtain ⟨_, _, ⟨⟩, run⟩ := exec_bind_eq_ok.mp run
      cases run

/-- All that a survey settles, its root included. -/
theorem survey_settles {o : ScanOptions} {v : Survey} {s t : State}
    (run : exec (survey o) s = (.ok v, t)) :
    InForce s.disk o.changes v.settings ∧
      (∃ root a, ((given? o.directory).map .text).getD v.settings.sourceDir = .text root ∧
        Analysis.run v.settings s.disk (.ofText root) (Path.ofText root).text = .ok a ∧
        v.report = a.report) ∧
      (∃ text, v.settings.reportPath = .text text ∧ v.path = .ofText text) ∧
      ∀ c ∈ v.copy, o.output = some c.1 ∧ c.2.1 = .ofText c.1 ∧
        Report.Format.ofExtension? c.2.1.suffix = some c.2.2 := by
  obtain ⟨_, s₁, checked, run⟩ := exec_bind_eq_ok.mp run
  obtain ⟨settings, s₂, configured, run⟩ := exec_bind_eq_ok.mp run
  obtain ⟨_, s₃, rooted, run⟩ := exec_bind_eq_ok.mp run
  obtain ⟨copy, s₄, asked, run⟩ := exec_bind_eq_ok.mp run
  obtain ⟨_, _, ⟨⟩, run⟩ := exec_bind_eq_ok.mp run
  obtain ⟨_, _, ⟨⟩, run⟩ := exec_bind_eq_ok.mp run
  obtain ⟨r, _, scanned, run⟩ := exec_bind_eq_ok.mp run
  obtain ⟨_, _, _, run⟩ := exec_bind_eq_ok.mp run
  obtain ⟨_, _, ⟨⟩, run⟩ := exec_bind_eq_ok.mp run
  obtain ⟨_, _, placed, run⟩ := exec_bind_eq_ok.mp run
  obtain ⟨text, named, rfl, rfl⟩ := exec_pathOf_eq_ok.mp placed
  cases run
  obtain ⟨root, textual, rfl, rfl⟩ := exec_pathOf_eq_ok.mp rooted
  have kept₁ := (quiet_checkOperands o).disk_eq checked
  have kept₃ := ((quiet_configure _).disk_eq configured).trans kept₁
  have quiet := quiet_of_steady fun _ => steady_copyAskedFor o
  have kept₄ := (quiet.disk_eq asked).trans kept₃
  obtain ⟨a, analyzed, rfl⟩ := scanTree_eq_ok scanned
  dsimp only at analyzed
  rw [kept₄] at analyzed
  have inForce := configure_eq_ok configured
  rw [kept₁] at inForce
  exact ⟨inForce, ⟨root, a, textual, analyzed, rfl⟩, ⟨text, named, rfl⟩, copyAskedFor_eq_ok asked⟩

theorem survey_eq_ok {o : ScanOptions} {v : Survey} {s t : State}
    (run : exec (survey o) s = (.ok v, t)) : Surveyed o s.disk v := by
  obtain ⟨inForce, ⟨root, a, _, analyzed, same⟩, path, copy⟩ := survey_settles run
  exact ⟨inForce, path, copy, .ofText root, a, analyzed, same⟩

/-! ## Keeping its report -/

/-- A command that stops only at faults that nobody answers for. -/
def Unanswered (command : Run α) : Prop :=
  ∀ s why t, exec command s = (.error why, t) → ∃ c, why = .crash c

theorem Unanswered.bind {command : Run α} {next : α → Run β} (first : Unanswered command)
    (second : ∀ a, Unanswered (next a)) : Unanswered (command >>= next) := by
  intro s why t stopped
  rw [exec_bind] at stopped
  rcases run : exec command s with ⟨earlier | a, u⟩
  all_goals rw [run] at stopped
  · cases stopped
    exact first s _ _ run
  · exact second a u why t stopped

theorem unanswered_of_ok {command : Run α} (ended : ∀ s, ∃ a t, exec command s = (.ok a, t)) :
    Unanswered command := by
  intro s why t stopped
  obtain ⟨a, u, run⟩ := ended s
  cases run.symm.trans stopped

theorem unanswered_need (crash : ε → Crash) (result : Except ε α) :
    Unanswered (need crash result) := by
  intro s why t stopped
  cases result with
  | ok a => cases stopped
  | error f =>
    cases stopped
    exact ⟨_, rfl⟩

theorem unanswered_echo (line : String) : Unanswered (echo line) :=
  unanswered_of_ok fun _ => ⟨_, _, rfl⟩

theorem exec_save (settings : Settings) (r : Report) (path : Path) (s : State) :
    exec (save settings r path) s =
      match Store.save settings r s.disk path with
      | (after, none) => (.ok (), { s with disk := after })
      | (after, some f) => (.error (.crash (.store f)), { s with disk := after }) := by
  simp only [save, exec_bind, exec_disk]
  rcases Store.save settings r s.disk path with ⟨after, _ | f⟩ <;>
    simp only [exec_setDisk, exec_pure, exec_throw]

theorem unanswered_save (settings : Settings) (r : Report) (path : Path) :
    Unanswered (save settings r path) := by
  intro s why t stopped
  rw [exec_save] at stopped
  rcases saved : Store.save settings r s.disk path with ⟨after, _ | f⟩
  all_goals rw [saved] at stopped
  · cases stopped
  · cases stopped
    exact ⟨_, rfl⟩

theorem unanswered_writeCopy (settings : Settings) (r : Report) (output : String) (path : Path)
    (format : Report.Format) : Unanswered (writeCopy settings r output path format) := by
  refine (unanswered_need _ _).bind fun text => ?_
  refine (unanswered_of_ok fun _ => ⟨_, _, rfl⟩).bind fun d => ?_
  refine (unanswered_need _ _).bind fun after => ?_
  exact (unanswered_of_ok fun _ => ⟨_, _, rfl⟩).bind fun _ => unanswered_echo _

/-- A copy changes the place that its path leads to. -/
theorem writeCopy_filesChangedAt {path : Path} (named : path.endsInName = true) (settings : Settings)
    (r : Report) (output : String) (format : Report.Format) (s : State) :
    s.disk.FilesChangedAt (fun place => s.disk.locate path = .ok place)
      (exec (writeCopy settings r output path format) s).2.disk := by
  have unchanged := Disk.FilesChangedAt.refl (fun place => s.disk.locate path = .ok place) s.disk
  simp only [writeCopy, rendered, exec_bind]
  cases r.render format settings with
  | error f => exact unchanged
  | ok text =>
    simp only [exec_need_ok, exec_disk]
    cases wrote : s.disk.write path (Text.Utf8.encode text) with
    | error f => exact unchanged
    | ok after => exact Disk.filesChangedAt_write named wrote

theorem unanswered_keep (v : Survey) : Unanswered (keep v) := by
  refine (unanswered_save _ _ _).bind fun _ => (unanswered_echo _).bind fun _ => ?_
  split
  · exact unanswered_writeCopy _ _ _ _ _
  · exact unanswered_of_ok fun _ => ⟨_, _, rfl⟩

/-- What is kept of a survey changes the places of its report and of its copy. -/
theorem keep_filesChangedAt {o : ScanOptions} {v : Survey} {s : State}
    (surveyed : Surveyed o s.disk v) :
    s.disk.FilesChangedAt (fun place => Store.Reaches s.disk v.path place ∨
        ∃ c ∈ v.copy, s.disk.locate c.2.1 = .ok place) (exec (keep v) s).2.disk := by
  have saved := Store.save_filesChangedAt v.settings v.report s.disk v.path
  simp only [keep, exec_bind, exec_save]
  rcases ended : Store.save v.settings v.report s.disk v.path with ⟨after, _ | f⟩
  all_goals rw [ended] at saved
  · simp only [exec_echo]
    cases asked : v.copy with
    | none => exact saved.mono fun _ => .inl
    | some c =>
      obtain ⟨output, path, format⟩ := c
      obtain ⟨_, _, extension⟩ := surveyed.copy _ asked
      have copied (out : String) := writeCopy_filesChangedAt
        (Path.endsInName_of_extension extension) v.settings v.report output format
        { s with disk := after, out }
      refine (saved.mono fun _ => .inl).trans ((copied _).mono ?_)
      exact fun place found => .inr ⟨_, rfl, (saved.paths _ _).mp found⟩
  · exact saved.mono fun _ => .inl

end Command

end CloneScan
