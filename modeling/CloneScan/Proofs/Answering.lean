import CloneScan.Proofs.Configuration
import CloneScan.Proofs.Consumption

/-! What the commands on a saved report answer. All that they need to know of the disk is whether a
report is kept at its path, and which one: then what they print, how they end and what they leave
behind is settled. -/
namespace CloneScan

structure Stored where
  settings : Settings
  report : Report

namespace Stored

def artifact (s : Stored) : Value := s.report.artifact s.settings

def octets (s : Stored) : List UInt8 := Text.Utf8.encode (s.report.toJson s.settings)

end Stored

namespace Store

/-- A path holds a saved report, or nothing at all. -/
structure Keeps (d : Disk) (path : Path) (kept : Option Stored) : Prop where
  look : d.look path = .ok (kept.map fun s => .file s.octets)
  writable : ∀ s ∈ kept, s.artifact.writeFault? = none
  named : kept.isSome → path.endsInName = true

variable {d : Disk} {path : Path} {kept : Option Stored} {s : Stored}

theorem Keeps.holds (keeps : Keeps d path kept) : d.holds path = .ok kept.isSome := by
  rw [Disk.holds, keeps.look]
  cases kept <;> rfl

theorem Keeps.load_none (keeps : Keeps d path none) : load d path = .error (.notFound path) := by
  have isFile : d.isFile path = .ok false := by
    rw [Disk.isFile, keeps.look]
    rfl
  simp only [load, isFile, Except.mapError, bind, Except.bind]
  rfl

theorem Keeps.load_some (keeps : Keeps d path (some s)) : load d path = .ok s.artifact := by
  obtain ⟨_, stands⟩ := Disk.look_eq_ok.mp keeps.look
  apply load_of_content
  · rw [Disk.isFile, keeps.look]
    rfl
  · rw [Disk.node?] at stands
    rw [Disk.read]
    cases leads : d.locate path with
    | error cause =>
      rw [leads] at stands
      cases stands
    | ok place =>
      rw [leads] at stands
      dsimp only at stands ⊢
      rw [stands]
      rfl
  · exact keeps.writable s rfl

/-- Changes elsewhere do not matter. -/
theorem Keeps.congr {e : Disk} {changed : Location → Prop} (keeps : Keeps d path kept)
    (step : d.FilesChangedAt changed e)
    (apart : ∀ place, d.locate path = .ok place → ¬ changed place) : Keeps e path kept where
  look := step.look_eq keeps.look (by cases kept <;> rfl) apart
  writable := keeps.writable
  named := keeps.named

/-- A report that has been saved is the one that is kept. -/
theorem keeps_of_saved {settings : Settings} {r : Report}
    (saved : (save settings r d path).2 = none) :
    Keeps (save settings r d path).1 path (some ⟨settings, r⟩) where
  look := by
    obtain ⟨above, replaced⟩ := save_replaces saved
    have led : (save settings r d path).1.locate path = .ok (above ++ [path.name]) :=
      (Disk.locate_congr replaced.directories replaced.here).mpr replaced.located
    have askable : (save settings r d path).1.locate path ≠ .error .nameTooLong := by
      intro tooLong
      cases led.symm.trans tooLong
    refine Disk.look_eq_ok.mpr ⟨askable, ?_⟩
    have stands := replaced.surface (above ++ [path.name])
    rw [if_pos rfl] at stands
    rw [Disk.node?, led]
    exact Node.surface?_eq_file.mp stands
  writable := by
    rintro _ ⟨⟩
    exact writable_of_saved saved
  named _ := by
    obtain ⟨_, _, _, _, _, renamed⟩ := save_eq_none saved
    exact (Disk.rename_eq_ok.mp renamed).2.1

/-- A save that is refused keeps what was kept before. -/
theorem Keeps.refused {settings : Settings} {r : Report} {after : Disk} {f : Fault}
    (keeps : Keeps d path kept) (refused : save settings r d path = (after, some f)) :
    Keeps after path kept := by
  rcases save_eq_some refused with rfl | ⟨beside, place, content, named, found, free, rfl⟩
  · exact keeps
  · have there := Disk.beside_of_locate named found
    obtain ⟨above, _, inside, rfl⟩ := there.place
    exact keeps.congr (Disk.filesChangedAt_put inside free content) fun _ leads => there.apart leads

/-- Clearing leaves nothing at the path and everything else as it was. -/
theorem Keeps.clear (keeps : Keeps d path kept) :
    ∃ after, clear d path = .ok (after, kept.isSome) ∧ Keeps after path none ∧
      d.FilesChangedAt (fun place => d.locate path = .ok place) after := by
  cases kept with
  | none =>
    refine ⟨d, ?_, keeps, .refl _ d⟩
    simp only [Store.clear, keeps.holds]
    rfl
  | some stored =>
    obtain ⟨askable, stands⟩ := Disk.look_eq_ok.mp keeps.look
    rw [Disk.node?] at stands
    cases leads : d.locate path with
    | error cause =>
      rw [leads] at stands
      cases stands
    | ok place =>
      rw [leads] at stands
      dsimp only at stands
      obtain ⟨above, _, _, rfl⟩ := Disk.locate_named (keeps.named rfl) leads
      have flat : d.top.isDirectoryAt (above ++ [path.name]) = false := by
        rw [Node.isDirectoryAt, stands]
        rfl
      have changed := Disk.filesChangedAt_erase flat
      refine ⟨{ d with top := d.top.erase (above ++ [path.name]) }, ?_, ⟨?_, ?_, ?_⟩, ?_⟩
      · simp only [Store.clear, keeps.holds, Disk.delete, leads, stands]
        rfl
      · refine Disk.look_eq_ok.mpr ⟨mt (changed.locate_nameTooLong path).mp askable, ?_⟩
        rw [Disk.node?, (changed.paths _ _).mpr leads]
        have seen := Node.surface?_erase flat (above ++ [path.name])
        rw [if_pos rfl] at seen
        exact Option.map_eq_none_iff.mp seen
      · exact fun _ member => by cases member
      · exact fun found => by cases found
      · refine changed.mono ?_
        rintro _ rfl
        rfl

end Store

namespace Command

open Run

variable {base : Settings} {r : String} {kept : Option Stored} {s : State}

def shown (lines : List String) : String := String.join (lines.map fun l => Console.plain (l ++ "\n"))

@[simp] theorem shown_nil : shown [] = "" := rfl

@[simp] theorem shown_cons (line : String) (rest : List String) :
    shown (line :: rest) = Console.plain (line ++ "\n") ++ shown rest := by
  simp only [shown, List.map_cons, String.join_cons]

theorem shown_append (front back : List String) :
    shown (front ++ back) = shown front ++ shown back := by
  induction front with
  | nil => simp
  | cons line rest ih => simp only [List.cons_append, shown_cons, ih, String.append_assoc]

theorem exec_forM_shown (lines : List String) (s : State) :
    exec (lines.forM echo) s = (.ok (), { s with out := s.out ++ shown lines }) :=
  exec_forM_echo s lines

theorem exec_loadReport {settings : Settings} (named : settings.reportPath = .text r)
    (keeps : Store.Keeps s.disk (.ofText r) kept) :
    exec (loadReport settings) s = (.ok (kept.map Stored.artifact), s) := by
  simp only [loadReport, exec_bind, exec_disk, named, exec_pathOf]
  cases kept with
  | none =>
    rw [keeps.load_none]
    rfl
  | some stored =>
    rw [keeps.load_some]
    rfl

def absentLine : String := "⚠️  No report found. Run analysis first (cdf analyze)."

def viewLines (r : String) : Option Stored → List String
  | none => [absentLine]
  | some s =>
    ["📊 Report Summary:", "",
      "Total patterns: " ++ Numeral.text s.report.totalPatterns,
      "Total duplicated lines: " ++ Numeral.text s.report.totalLines,
      "Average duplication: " ++ s.report.averageLines.text ++ " lines"] ++
    (if s.report.truncatedFiles.isEmpty then []
      else ["Partially scanned files: " ++ Numeral.text s.report.truncatedFiles.length]) ++
    ["", "Full report: " ++ r]

/-- That there is no report is told only if there is none. -/
theorem shown_viewLines_eq (r : String) (kept : Option Stored) :
    shown (viewLines r kept) = shown [absentLine] ↔ kept = none := by
  cases kept with
  | none => exact iff_of_true rfl rfl
  | some s =>
    have other : (shown [absentLine]).toList.head? = some '⚠' := by decide +kernel
    have first : (Console.plain ("📊 Report Summary:" ++ "\n")).toList.head? = some '📊' := by
      decide +kernel
    refine iff_of_false (fun same => ?_) (Option.some_ne_none s)
    rw [← same] at other
    simp only [viewLines, List.cons_append, shown_cons, String.toList_append, List.head?_append,
      first] at other
    cases other

theorem exec_view (configured : Configured s.disk base) {report : Option String}
    (named : chosen base.reportPath report = .text r)
    (keeps : Store.Keeps s.disk (.ofText r) kept) :
    ∃ log, exec (view report) s =
      (.ok (), { s with out := s.out ++ shown (viewLines r kept), log }) := by
  obtain ⟨log, settled⟩ := exec_configure configured (replace_reportChanges base report)
  have path : (withPaths base report none).reportPath = .text r := named
  have loaded := @exec_loadReport r kept { s with log } _ path keeps
  refine ⟨log, ?_⟩
  simp only [view, exec_bind, settled, loaded]
  cases kept with
  | none =>
    simp only [Option.map_none, exec_echo, viewLines, absentLine, shown_cons, shown_nil,
      String.append_empty]
  | some stored =>
    simp only [Option.map_some, exec_bind, exec_echo, Stored.artifact,
      Report.summaryLines_artifact, exec_need_ok, exec_forM_shown, path, Value.display]
    simp only [viewLines, shown_append, shown_cons, shown_nil, String.append_assoc,
      String.append_empty]

/-- Where a name is too long the files cannot be asked about the report, and nobody answers for that. -/
theorem exec_view_unasked (configured : Configured s.disk base) {report : Option String}
    (named : chosen base.reportPath report = .text r)
    (tooLong : s.disk.locate (.ofText r) = .error .nameTooLong) :
    ∃ log, exec (view report) s =
      (.error (.crash (.store (.file ⟨.nameTooLong, .ofText r, none⟩))), { s with log }) := by
  obtain ⟨log, settled⟩ := exec_configure configured (replace_reportChanges base report)
  have path : (withPaths base report none).reportPath = .text r := named
  have unasked : s.disk.isFile (.ofText r) = .error ⟨.nameTooLong, .ofText r, none⟩ := by
    rw [Disk.isFile, Disk.look, tooLong]
    rfl
  have unloaded : Store.load s.disk (.ofText r) =
      .error (.file ⟨.nameTooLong, .ofText r, none⟩) := by
    simp only [Store.load, unasked, Except.mapError, bind, Except.bind]
  refine ⟨log, ?_⟩
  simp only [view, loadReport, exec_bind, settled, exec_disk, path, exec_pathOf, unloaded]
  rfl

def suggestLines (dir : String) (s : Stored) (files : List Utility.Template) : List String :=
  ["📖 Reading duplication report...",
    "Found " ++ Numeral.text s.report.groups.length ++ " duplicate patterns",
    Utility.reportText dir s.settings s.report files] ++ creationHint

theorem exec_suggest_none (now : Timestamp) (configured : Configured s.disk base)
    {o : SuggestOptions} (named : chosen base.reportPath o.report = .text r)
    (keeps : Store.Keeps s.disk (.ofText r) none) :
    ∃ log, exec (suggest now o) s = (.error .refused, { s with
      err := s.err ++ shown ["❌ No duplication report found!", "   Run: cdf analyze first"], log }) := by
  obtain ⟨log, settled⟩ := exec_configure configured (replace_suggestChanges base o)
  have path : (withPaths base o.report o.utilitiesDir).reportPath = .text r := named
  have loaded := @exec_loadReport r none { s with log } _ path keeps
  refine ⟨log, ?_⟩
  simp only [suggest, suggestFrom, exec_bind, settled, loaded, Option.map_none, exec_complain,
    exec_refuse, shown_cons, shown_nil, String.append_empty, String.append_assoc]

theorem exec_suggest_some (now : Timestamp) (configured : Configured s.disk base)
    {o : SuggestOptions} (plain : o.create = false)
    (named : chosen base.reportPath o.report = .text r) {dir : String}
    (textual : chosen base.utilitiesDir o.utilitiesDir = .text dir) {stored : Stored}
    (keeps : Store.Keeps s.disk (.ofText r) (some stored)) :
    ∃ files log, Utility.templates stored.artifact now = .ok files ∧
      exec (suggest now o) s =
        (.ok (), { s with out := s.out ++ shown (suggestLines dir stored files), log }) := by
  obtain ⟨log, settled⟩ := exec_configure configured (replace_suggestChanges base o)
  have path : (withPaths base o.report o.utilitiesDir).reportPath = .text r := named
  have directory : (withPaths base o.report o.utilitiesDir).utilitiesDir = .text dir := textual
  have loaded := @exec_loadReport r (some stored) { s with log } _ path keeps
  obtain ⟨files, made, _⟩ := Utility.templates_artifact stored.settings stored.report now
  have listed := duplicates?_artifact stored.settings stored.report
  refine ⟨files, log, made, ?_⟩
  simp only [suggest, suggestFrom, exec_bind, settled, loaded, Option.map_some, exec_echo,
    Stored.artifact, listed, made, exec_need_ok, directory, Utility.suggestions_artifact, plain,
    Option.getD_some, List.length_map]
  simp only [Bool.false_eq_true, if_false, exec_forM_shown, suggestLines, shown_append, shown_cons,
    shown_nil, String.append_assoc, String.append_empty]

def cleanLine (found : Bool) : String :=
  if found then "🗑️  Report cleaned" else "   No report to clean"

theorem shown_cleanLine_eq (kept : Option Stored) :
    shown [cleanLine kept.isSome] = shown [cleanLine false] ↔ kept = none := by
  cases kept with
  | none => exact iff_of_true rfl rfl
  | some s =>
    have apart : shown [cleanLine true] ≠ shown [cleanLine false] := by decide +kernel
    exact iff_of_false apart (Option.some_ne_none s)

theorem exec_clean (configured : Configured s.disk base) {report : Option String}
    (named : chosen base.reportPath report = .text r)
    (keeps : Store.Keeps s.disk (.ofText r) kept) :
    ∃ after log, exec (clean report) s =
        (.ok (), { s with disk := after, out := s.out ++ shown [cleanLine kept.isSome], log }) ∧
      Store.Keeps after (.ofText r) none ∧
      s.disk.FilesChangedAt (fun place => s.disk.locate (.ofText r) = .ok place) after := by
  obtain ⟨log, settled⟩ := exec_configure configured (replace_reportChanges base report)
  have path : (withPaths base report none).reportPath = .text r := named
  obtain ⟨after, cleared, gone, changed⟩ := keeps.clear
  refine ⟨after, log, ?_, gone, changed⟩
  simp only [clean, exec_bind, settled, exec_disk, path, exec_pathOf, cleared, exec_need_ok,
    exec_setDisk, exec_echo, shown_cons, shown_nil, String.append_empty, cleanLine]

end Command

end CloneScan
