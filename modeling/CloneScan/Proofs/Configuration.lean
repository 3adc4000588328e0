import CloneScan.Proofs.Analyzing
import CloneScan.Proofs.Acceptance
import CloneScan.Proofs.Nearest

/-! The settings that are in force. A command line changes single settings of a configuration and leaves
the others as they are. The configuration itself depends on the disk only through the places where a
settings file may stand, so it outlives all changes elsewhere. -/
namespace CloneScan

namespace Settings

/-- The paths are taken over without a look at them. -/
theorem check_paths {raw : Raw} {s : Settings} (checked : check raw = .ok s) :
    s.reportPath = raw .reportPath ∧ s.utilitiesDir = raw .utilitiesDir := by
  have held := raw_of_check checked
  exact ⟨congrFun held .reportPath, congrFun held .utilitiesDir⟩

theorem name_ne_ownName (setting : Setting) : setting.name ≠ ownName := by
  cases setting <;> decide

/-- Changes to settings that exist are checked together with what is left as it is. -/
theorem replace_named {s : Settings} {changes : List (String × Value)}
    (known : ∀ change ∈ changes, ∃ setting : Setting, change.1 = setting.name) :
    s.replace changes = check (merge s.raw (changes.filter fun change => !change.2.isNull)) := by
  have notItself : (changes.any fun change => change.1 == ownName) = false := by
    rw [List.any_eq_false]
    intro change member
    obtain ⟨setting, named⟩ := known change member
    rw [named, beq_iff_eq]
    exact name_ne_ownName setting
  have allKnown : unknownNames (changes.filter fun change => !change.2.isNull) = [] := by
    rw [unknownNames, List.filter_eq_nil_iff]
    intro name member
    obtain ⟨change, given, rfl⟩ := List.mem_map.mp member
    obtain ⟨setting, named⟩ := known change (List.mem_filter.mp given).1
    rw [named, Setting.ofName?_name, Option.isNone_some]
    exact Bool.false_ne_true
  simp only [replace, notItself, Bool.false_eq_true, if_false, allKnown]

theorem raw_reportPath (s : Settings) (v : Value) :
    { s with reportPath := v }.raw = s.raw.set .reportPath v := by
  funext setting
  cases setting <;> rfl

theorem raw_utilitiesDir (s : Settings) (v : Value) :
    { s with utilitiesDir := v }.raw = s.raw.set .utilitiesDir v := by
  funext setting
  cases setting <;> rfl

end Settings

namespace Command

/-- What a command line says about a setting, or else what the configuration has for it. -/
def chosen (base : Value) (given : Option String) : Value := (given.map .text).getD base

def withPaths (base : Settings) (report utilitiesDir : Option String) : Settings :=
  { base with
    reportPath := chosen base.reportPath report
    utilitiesDir := chosen base.utilitiesDir utilitiesDir }

theorem merge_optional (raw : Settings.Raw) (setting : Setting) (given : Option String) :
    Settings.merge raw ([(setting.name, optionalText given)].filter fun change => !change.2.isNull) =
      raw.set setting (chosen (raw setting) given) := by
  cases given with
  | some text => exact Settings.merge_named raw setting (.text text)
  | none =>
    funext other
    by_cases same : other = setting
    · rw [Settings.Raw.set, if_pos same, same]
      rfl
    · rw [Settings.Raw.set, if_neg same]
      rfl

theorem replace_reportChanges (base : Settings) (report : Option String) :
    base.replace (reportChanges report) = .ok (withPaths base report none) := by
  rw [Settings.replace_named (by simp [reportChanges]), reportChanges, merge_optional,
    ← Settings.raw_reportPath, Settings.check_raw]
  rfl

theorem replace_suggestChanges (base : Settings) (o : SuggestOptions) :
    base.replace o.changes = .ok (withPaths base o.report o.utilitiesDir) := by
  have parts : o.changes = [(Setting.reportPath.name, optionalText o.report)] ++
      [(Setting.utilitiesDir.name, optionalText o.utilitiesDir)] := rfl
  rw [Settings.replace_named (by simp [SuggestOptions.changes]), parts, List.filter_append,
    Settings.merge_append, merge_optional, merge_optional, ← Settings.raw_reportPath,
    ← Settings.raw_utilitiesDir, Settings.check_raw]
  rfl

/-- An analysis keeps its report where the command line or else the configuration says. -/
theorem reportPath_of_replace {base settings : Settings} {o : ScanOptions}
    (replaced : base.replace o.changes = .ok settings) :
    settings.reportPath = chosen base.reportPath o.report := by
  obtain ⟨front, parts, other⟩ : ∃ front : List (String × Value),
      o.changes = front ++ [(Setting.reportPath.name, optionalText o.report)] ∧
        ∀ field ∈ front, field.1 ≠ Setting.reportPath.name := by
    refine ⟨o.changes.dropLast, rfl, ?_⟩
    simp [ScanOptions.changes, Setting.name]
  rw [Settings.replace_named (by simp [ScanOptions.changes]), parts, List.filter_append,
    Settings.merge_append, merge_optional] at replaced
  have kept : Settings.merge base.raw (front.filter fun change => !change.2.isNull) .reportPath =
      base.reportPath := by
    apply Settings.merge_other
    intro field member
    exact other field (List.mem_filter.mp member).1
  rw [(Settings.check_paths replaced).1, kept]
  rfl

/-- An analysis has nothing to say about the directory for utilities. -/
theorem utilitiesDir_of_replace {base settings : Settings} {o : ScanOptions}
    (replaced : base.replace o.changes = .ok settings) :
    settings.utilitiesDir = base.utilitiesDir := by
  have other : ∀ field ∈ o.changes, field.1 ≠ Setting.utilitiesDir.name := by
    simp [ScanOptions.changes, Setting.name]
  rw [Settings.replace_named (by simp [ScanOptions.changes])] at replaced
  rw [(Settings.check_paths replaced).2]
  apply Settings.merge_other
  intro field member
  exact other field (List.mem_filter.mp member).1

end Command

namespace SettingsFile

open Disk

variable {d e : Disk} {changed : Location → Prop}

theorem isFile_surface (place : Location) (n : Node) :
    (n.at? place).any Node.isFile = (n.surface? place).any Node.isFile := by
  rw [Node.surface?]
  rcases n.at? place with _ | _ | _ <;> rfl

/-- The search goes as before where neither the settings file has changed nor what counts as the settings
file afterwards. -/
theorem findM?_isFileAt_congr (step : d.FilesChangedAt changed e) {places : List Location}
    (before : ∀ found, places.find? (fun place => (d.top.at? place).any Node.isFile) = some found →
      ¬ changed found)
    (after : ∀ found, places.find? (fun place => (e.top.at? place).any Node.isFile) = some found →
      ¬ changed found) : places.findM? e.isFileAt = places.findM? d.isFileAt := by
  induction places with
  | nil => rfl
  | cons first rest ih =>
    rw [List.find?_cons] at before after
    have alike : (e.top.at? first).any Node.isFile = (d.top.at? first).any Node.isFile := by
      by_cases hit : changed first
      · -- A changed candidate was no file before and is none now, for it would count as the first.
        have gone : (d.top.at? first).any Node.isFile = false := by
          by_contra stands
          rw [Bool.not_eq_false] at stands
          exact before first (by rw [stands]) hit
        have absent : (e.top.at? first).any Node.isFile = false := by
          by_contra stands
          rw [Bool.not_eq_false] at stands
          exact after first (by rw [stands]) hit
        rw [gone, absent]
      · rw [isFile_surface, isFile_surface, step.places first hit]
    have asked : e.isFileAt first = d.isFileAt first :=
      isFileAt_congr (by rw [step.frame]) alike (step.locate_nameTooLong _)
    rw [List.findM?, List.findM?, asked]
    rw [alike] at after
    by_cases tooLong : d.locate ⟨.root, first⟩ = .error .nameTooLong
    · rw [isFileAt_eq_error tooLong]
      rfl
    · rw [isFileAt_eq_ok tooLong]
      cases stands : (d.top.at? first).any Node.isFile with
      | true => rfl
      | false =>
        rw [stands] at before after
        rw [ok_bind, ok_bind]
        exact ih before after

theorem ofPlace_congr {m n : Node} {place : Location}
    (same : m.surface? place = n.surface? place) : ofPlace m place = ofPlace n place := by
  rw [ofPlace, ofPlace]
  cases stands : n.at? place with
  | none =>
    rw [Node.surface?, Node.surface?, stands, Option.map_none, Option.map_eq_none_iff] at same
    rw [same]
  | some found =>
    cases found with
    | file content =>
      rw [Node.surface?_eq_file.mp (same.trans (Node.surface?_eq_file.mpr stands))]
    | directory entries =>
      rw [Node.surface?, Node.surface?, stands, Option.map_some, Option.map_eq_some_iff] at same
      obtain ⟨other, there, alike⟩ := same
      rw [there]
      cases other with
      | file content => cases alike
      | directory _ => rfl

/-- The settings file is found and read as before where neither it has changed nor what counts as the
settings file afterwards. -/
theorem load_congr (step : d.FilesChangedAt changed e) {p : Path}
    (before : ∀ found, nearest d.top (d.resolve p) = some found → ¬ changed found)
    (after : ∀ found, nearest e.top (d.resolve p) = some found → ¬ changed found) :
    load e p = load d p := by
  have resolved : e.resolve p = d.resolve p := by rw [resolve, resolve, step.here]
  have searched : search e p = search d p := by
    rw [search, search, searchFrom, searchFrom, resolved, findM?_isFileAt_congr step before after]
  rw [load, load, searched]
  cases answer : search d p with
  | error f => rfl
  | ok found =>
    cases found with
    | none => rfl
    | some place =>
      have counts := (search_eq_ok_iff.mp answer).2
      exact ofPlace_congr (step.places place (before place counts))

end SettingsFile

namespace Command

open Run

/-- The settings file of the working directory, with what it leaves out, comes to these settings. -/
def Configured (d : Disk) (base : Settings) : Prop :=
  ∃ finding fields, SettingsFile.load d (.ofText ".") = .ok finding ∧
    finding.table = .record fields ∧ Settings.ofFields fields = .ok base

/-- Changes to files that are not consulted, neither before nor afterwards, leave the configuration as
it is. -/
theorem Configured.congr {d e : Disk} {base : Settings} {changed : Location → Prop}
    (configured : Configured d base) (step : d.FilesChangedAt changed e)
    (before : ∀ found, SettingsFile.nearest d.top d.here = some found → ¬ changed found)
    (after : ∀ found, SettingsFile.nearest e.top d.here = some found → ¬ changed found) :
    Configured e base := by
  obtain ⟨finding, fields, loaded, rest⟩ := configured
  have here : d.resolve (.ofText ".") = d.here := rfl
  refine ⟨finding, fields, ?_, rest⟩
  rw [SettingsFile.load_congr step (by rwa [here]) (by rwa [here]), loaded]

/-- What is in force is a configuration with some changes. -/
theorem InForce.configured {d : Disk} {settings : Settings} {changes : List (String × Value)}
    (inForce : InForce d changes settings) :
    ∃ base, Configured d base ∧ base.replace changes = .ok settings := by
  obtain ⟨finding, fields, loaded, table, checked⟩ := inForce
  obtain ⟨base, whole, replaced⟩ := bind_eq_ok.mp checked
  exact ⟨base, ⟨finding, fields, loaded, table, whole⟩, replaced⟩

theorem Configured.inForce {d : Disk} {base settings : Settings} {changes : List (String × Value)}
    (configured : Configured d base) (inForce : InForce d changes settings) :
    base.replace changes = .ok settings := by
  obtain ⟨finding, fields, loaded, table, checked⟩ := configured
  obtain ⟨other, _, again, same, replaced⟩ := inForce
  obtain rfl : finding = other := Except.ok.inj (loaded.symm.trans again)
  rw [table] at same
  cases same
  rw [checked] at replaced
  exact replaced

/-- A command whose changes fit the configuration goes on with them. It has printed nothing. -/
theorem exec_configure {base settings : Settings} {changes : List (String × Value)} {s : State}
    (configured : Configured s.disk base) (replaced : base.replace changes = .ok settings) :
    ∃ log, exec (configure changes) s = (.ok settings, { s with log }) := by
  obtain ⟨finding, fields, loaded, table, checked⟩ := configured
  have fits : (Settings.ofFields fields >>= (·.replace changes)) = .ok settings := by
    rw [checked]
    exact replaced
  refine ⟨s.log ++ finding.records s.disk ++ unknownRecords fields, ?_⟩
  simp only [configure, exec_bind, exec_disk, loaded, exec_need_ok, exec_tell, table,
    settingsFields, exec_pure, fits]

end Command

end CloneScan
