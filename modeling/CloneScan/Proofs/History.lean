import CloneScan.Proofs.Answering
import CloneScan.Proofs.Creation

/-! Commands one after the other on one saved report. What the report's path holds is known after any
number of them: the report of the last analysis that came to save one, or nothing, if there was no
such analysis since the report was cleared. -/
namespace CloneScan

namespace SettingsFile

theorem name_of_mem_candidates {here place : Location} (member : place ∈ candidates here) :
    ∃ above name, name ∈ names ∧ place = above ++ [name] := by
  obtain ⟨above, _, inside⟩ := List.mem_flatMap.mp member
  obtain ⟨name, known, rfl⟩ := List.mem_map.mp inside
  exact ⟨above, name, known, rfl⟩

/-- A temporary file is no settings file. -/
theorem beside_not_candidate {here above : Location} (name : String) :
    above ++ [name ++ Store.temporarySuffix] ∉ candidates here := by
  intro member
  obtain ⟨other, known, listed, same⟩ := name_of_mem_candidates member
  obtain ⟨_, names⟩ := List.append_inj' same rfl
  have ends : Store.temporarySuffix.toList <:+ known.toList := by
    rw [← List.singleton_inj.mp names, String.toList_append]
    exact List.suffix_append _ _
  have none : ∀ name ∈ SettingsFile.names, ¬ Store.temporarySuffix.toList <:+ name.toList := by
    decide
  exact none known listed ends

/-- A file whose extension chooses a form is no settings file. -/
theorem copy_not_candidate {here above : Location} {p : Path} {format : Report.Format}
    (extension : Report.Format.ofExtension? p.suffix = some format) :
    above ++ [p.name] ∉ candidates here := by
  intro member
  obtain ⟨other, known, listed, same⟩ := name_of_mem_candidates member
  obtain ⟨_, names⟩ := List.append_inj' same rfl
  have none : ∀ name ∈ SettingsFile.names, Report.Format.ofExtension?
      (.ofList (Path.suffixOf name.toList)) = none := by decide
  rw [Path.suffix, List.singleton_inj.mp names, none known listed] at extension
  cases extension

end SettingsFile

namespace Command

open Run

/-! ## Commands that use one report -/

structure Call where
  now : Timestamp
  args : List String
  verbose : Bool
  request : Request
  read : Invocation.ofArguments args = .ok ⟨verbose, request⟩

def Call.outcome (c : Call) (d : Disk) : Outcome := (ofArguments c.now c.args).outcome d

/-- What an analysis saves, if it comes to save a report. -/
def savedBy (o : ScanOptions) (d : Disk) : Option Stored :=
  match exec (survey o) { disk := d } with
  | (.ok v, s) =>
    match (Store.save v.settings v.report s.disk v.path).2 with
    | none => some ⟨v.settings, v.report⟩
    | some _ => none
  | (.error _, _) => none

/-- The report saved last and not cleared since, after a request. -/
def Request.remembers (d : Disk) (kept : Option Stored) : Request → Option Stored
  | .analyze o => (savedBy o d).or kept
  | .clean _ => none
  | _ => kept

/-- The disk, and the report saved last and not cleared since. -/
abbrev Standing := Disk × Option Stored

def Call.proceed (c : Call) (s : Standing) : Standing :=
  ((c.outcome s.1).state.disk, c.request.remembers s.1 s.2)

/-- Where some commands lead, one after the other, from a disk without a report. -/
def history (d : Disk) (calls : List Call) : Standing :=
  calls.foldl (fun s c => c.proceed s) (d, none)

/-- A disk with a valid configuration, and the path of a report: nothing is there, and no settings file
would be. -/
structure Stage (d : Disk) (base : Settings) (r : String) : Prop where
  configured : Configured d base
  textual : ∃ dir, base.utilitiesDir = .text dir
  absent : d.node? (.ofText r) = none
  apart : ∀ place, d.locate (.ofText r) = .ok place → place ∉ SettingsFile.candidates d.here

/-- A command on a report, which writes neither a copy there nor templates. -/
def Request.Uses (d : Disk) (base : Settings) (r : String) : Request → Prop
  | .analyze o => chosen base.reportPath o.report = .text r ∧ ∀ output ∈ o.output, ∀ place,
      d.locate (.ofText output) = .ok place → d.locate (.ofText r) ≠ .ok place
  | .suggest o => chosen base.reportPath o.report = .text r ∧ o.create = false
  | .view report | .clean report => chosen base.reportPath report = .text r
  | _ => False

/-- What a command tells of the report that is kept. -/
def Request.Answers (base : Settings) (r : String) (now : Timestamp) (kept : Option Stored)
    (outcome : Outcome) : Request → Prop
  | .view _ => outcome.ending = .finished ∧ outcome.state.out = shown (viewLines r kept) ∧
      (outcome.state.out = shown [absentLine] ↔ kept = none)
  | .clean _ => outcome.ending = .finished ∧ outcome.state.out = shown [cleanLine kept.isSome] ∧
      (outcome.state.out = shown [cleanLine false] ↔ kept = none)
  | .suggest o => (outcome.ending.code = 1 ↔ kept = none) ∧
      match kept with
      | none => outcome.state.out = "" ∧ outcome.state.err =
          shown ["❌ No duplication report found!", "   Run: cdf analyze first"]
      | some s => ∃ dir files, chosen base.utilitiesDir o.utilitiesDir = .text dir ∧
          Utility.templates s.artifact now = .ok files ∧ outcome.ending = .finished ∧
          outcome.state.out = shown (suggestLines dir s files)
  | _ => True

theorem Call.outcome_eq (c : Call) (d : Disk) : c.outcome d = (perform c.now c.request).outcome d := by
  rw [outcome, ofArguments, c.read]

/-! ## One command -/

variable {d : Disk} {base : Settings} {r : String} {s : Standing}

/-- What holds after any number of commands: the configuration is as it was, and the report's path
holds what is remembered. -/
structure Reached (d : Disk) (r : String) (s : Standing) : Prop where
  changed : d.FilesChangedAt (· ∉ SettingsFile.candidates d.here) s.1
  keeps : Store.Keeps s.1 (.ofText r) s.2

theorem Stage.reached (stage : Stage d base r)
    (askable : d.locate (.ofText r) ≠ .error .nameTooLong) : Reached d r (d, none) where
  changed := .refl _ d
  keeps := ⟨Disk.look_eq_ok.mpr ⟨askable, stage.absent⟩, nofun, nofun⟩

theorem Reached.configured (reached : Reached d r s) (stage : Stage d base r) :
    Configured s.1 base :=
  stage.configured.congr reached.changed
    (fun _ nearby outside => outside (SettingsFile.candidate_of_nearest nearby))
    (fun _ nearby outside => outside (SettingsFile.candidate_of_nearest nearby))

/-- Changes that stay off the settings files and off the report lead on. -/
theorem Reached.step {e : Disk} {kept : Option Stored} {changed : Location → Prop}
    (reached : Reached d r s) (step : s.1.FilesChangedAt changed e)
    (outside : ∀ place, changed place → place ∉ SettingsFile.candidates d.here)
    (keeps : Store.Keeps e (.ofText r) kept) : Reached d r (e, kept) :=
  ⟨reached.changed.trans (step.mono outside), keeps⟩

theorem chosen_textual {v : Value} (textual : ∃ dir, v = .text dir) (given : Option String) :
    ∃ dir, chosen v given = .text dir := by
  cases given with
  | none => exact textual
  | some dir => exact ⟨dir, rfl⟩

/-- A save leads on: to its own report, or to what was kept before if it is refused. -/
theorem Reached.save (reached : Reached d r s) (stage : Stage d base r) (settings : Settings)
    (report : Report) {after : Disk} {fault : Option Store.Fault}
    (saved : Store.save settings report s.1 (.ofText r) = (after, fault)) :
    Reached d r (after, if fault.isNone then some ⟨settings, report⟩ else s.2) := by
  have step := Store.save_filesChangedAt settings report s.1 (.ofText r)
  rw [saved] at step
  refine reached.step step ?_ ?_
  · rintro place (leads | ⟨beside, named, found⟩)
    · exact stage.apart place ((reached.changed.paths _ _).mp leads)
    · obtain ⟨above, _, _, rfl⟩ := (Disk.beside_of_locate named found).place
      exact SettingsFile.beside_not_candidate _
  · cases fault with
    | none =>
      have whole := @Store.keeps_of_saved s.1 (.ofText r) settings report (by rw [saved])
      rw [saved] at whole
      exact whole
    | some f => exact reached.keeps.refused saved

/-- A copy beside the report leads on with the same report. -/
theorem Reached.writeCopy (reached : Reached d r s) {path : Path} {format : Report.Format}
    (extension : Report.Format.ofExtension? path.suffix = some format)
    (apart : ∀ place, d.locate path = .ok place → d.locate (.ofText r) ≠ .ok place)
    (settings : Settings) (report : Report) (output : String) {t : State} (disk : t.disk = s.1) :
    Reached d r ((exec (writeCopy settings report output path format) t).2.disk, s.2) := by
  have named := Path.endsInName_of_extension extension
  have step := writeCopy_filesChangedAt named settings report output format t
  rw [disk] at step
  refine reached.step step ?_ (reached.keeps.congr step ?_)
  · intro place leads
    obtain ⟨above, _, _, rfl⟩ := Disk.locate_named named leads
    exact SettingsFile.copy_not_candidate extension
  · intro place kept leads
    have first := (reached.changed.paths path place).mp leads
    exact apart place first ((reached.changed.paths _ _).mp kept)

/-- An analysis leads on, with its own report if it has saved one. -/
theorem Reached.analyze (reached : Reached d r s) (stage : Stage d base r) {o : ScanOptions}
    (uses : (Request.analyze o).Uses d base r) :
    Reached d r ((exec (analyze o) { disk := s.1 }).2.disk, (savedBy o s.1).or s.2) := by
  have configured := reached.configured stage
  have quiet := quiet_survey o { disk := s.1 }
  rw [analyze_eq, exec_bind, savedBy]
  rcases surveyed : exec (survey o) { disk := s.1 } with ⟨why | v, t⟩
  all_goals rw [surveyed] at quiet
  · rw [quiet]
    exact reached
  · have found := survey_eq_ok surveyed
    dsimp only at quiet found ⊢
    have path : v.path = .ofText r := by
      obtain ⟨text, textual, path⟩ := found.path
      have named := reportPath_of_replace (configured.inForce found.inForce)
      rw [textual, uses.1] at named
      cases named
      exact path
    simp only [keep, exec_bind, exec_save, path, quiet]
    rcases saved : Store.save v.settings v.report s.1 (.ofText r) with ⟨after, fault⟩
    have onward := reached.save stage v.settings v.report saved
    cases fault with
    | some f => exact onward
    | none =>
      simp only [exec_echo]
      cases asked : v.copy with
      | none => exact onward
      | some copy =>
        obtain ⟨output, target, format⟩ := copy
        obtain ⟨named, spelled, extension⟩ := found.copy _ asked
        dsimp only at named spelled extension
        subst spelled
        exact onward.writeCopy extension (uses.2 output named) _ _ _ rfl

theorem Reached.view (reached : Reached d r s) (stage : Stage d base r) (c : Call)
    {report : Option String} (request : c.request = .view report)
    (named : chosen base.reportPath report = .text r) :
    (Request.view report).Answers base r c.now s.2 (c.outcome s.1) ∧ Reached d r (c.proceed s) := by
  obtain ⟨log, run⟩ := @exec_view base r s.2 { disk := s.1 } (reached.configured stage) report named
    reached.keeps
  rw [Call.proceed, c.outcome_eq, outcome_eq, request, perform, run]
  refine ⟨⟨rfl, String.empty_append, ?_⟩, reached⟩
  change "" ++ shown (viewLines r s.2) = shown [absentLine] ↔ s.2 = none
  rw [String.empty_append]
  exact shown_viewLines_eq r s.2

theorem Reached.clean (reached : Reached d r s) (stage : Stage d base r) (c : Call)
    {report : Option String} (request : c.request = .clean report)
    (named : chosen base.reportPath report = .text r) :
    (Request.clean report).Answers base r c.now s.2 (c.outcome s.1) ∧ Reached d r (c.proceed s) := by
  obtain ⟨after, log, run, gone, changed⟩ := @exec_clean base r s.2 { disk := s.1 }
    (reached.configured stage) report named reached.keeps
  rw [Call.proceed, c.outcome_eq, outcome_eq, request, perform, run]
  refine ⟨⟨rfl, String.empty_append, ?_⟩, reached.step changed (fun place leads => ?_) gone⟩
  · change "" ++ shown [cleanLine s.2.isSome] = shown [cleanLine false] ↔ s.2 = none
    rw [String.empty_append]
    exact shown_cleanLine_eq s.2
  · exact stage.apart place ((reached.changed.paths _ _).mp leads)

theorem Reached.suggest (reached : Reached d r s) (stage : Stage d base r) (c : Call)
    {o : SuggestOptions} (request : c.request = .suggest o)
    (named : chosen base.reportPath o.report = .text r) (plain : o.create = false) :
    (Request.suggest o).Answers base r c.now s.2 (c.outcome s.1) ∧ Reached d r (c.proceed s) := by
  have configured := reached.configured stage
  obtain ⟨e, kept⟩ := s
  have keeps := reached.keeps
  cases kept with
  | none =>
    obtain ⟨log, run⟩ := @exec_suggest_none base r { disk := e } c.now configured o named keeps
    rw [Call.proceed, c.outcome_eq, outcome_eq, request, perform, run]
    exact ⟨⟨iff_of_true rfl rfl, rfl, String.empty_append⟩, reached⟩
  | some stored =>
    obtain ⟨dir, textual⟩ := chosen_textual stage.textual o.utilitiesDir
    obtain ⟨files, log, made, run⟩ := @exec_suggest_some base r { disk := e } c.now configured o
      plain named dir textual stored keeps
    rw [Call.proceed, c.outcome_eq, outcome_eq, request, perform, run]
    exact ⟨⟨iff_of_false Nat.zero_ne_one (Option.some_ne_none stored), dir, files, textual, made, rfl,
      String.empty_append⟩, reached⟩

/-- Every command that uses the report tells what is kept, and leads on. -/
theorem Reached.performed (reached : Reached d r s) (stage : Stage d base r) (c : Call)
    (uses : c.request.Uses d base r) :
    c.request.Answers base r c.now s.2 (c.outcome s.1) ∧ Reached d r (c.proceed s) := by
  cases request : c.request with
  | help | version | full o =>
    rw [request] at uses
    cases uses
  | analyze o =>
    refine ⟨trivial, ?_⟩
    rw [Call.proceed, c.outcome_eq, outcome_state, request]
    exact reached.analyze stage (request ▸ uses)
  | view report =>
    rw [request] at uses
    exact reached.view stage c request uses
  | clean report =>
    rw [request] at uses
    exact reached.clean stage c request uses
  | suggest o =>
    rw [request] at uses
    exact reached.suggest stage c request uses.1 uses.2

theorem history_concat (d : Disk) (earlier : List Call) (c : Call) :
    history d (earlier ++ [c]) = c.proceed (history d earlier) := by
  rw [history, List.foldl_append]
  rfl

/-- What is remembered is kept, after any number of commands. -/
theorem Stage.reached_history (stage : Stage d base r)
    (askable : d.locate (.ofText r) ≠ .error .nameTooLong) {calls : List Call}
    (uses : ∀ c ∈ calls, c.request.Uses d base r) : Reached d r (history d calls) := by
  induction calls using List.reverseRecOn with
  | nil => exact stage.reached askable
  | append_singleton earlier c ih =>
    rw [history_concat]
    have before := ih fun other member => uses other (List.mem_append_left _ member)
    exact (before.performed stage c (uses c (by simp))).2

/-- Whatever commands came before, `view`, `suggest` and `clean` tell of the report that was saved
last and not cleared since, and say so if there is none, as long as no name is too long for the files
to be asked about the report. -/
theorem report_remembered (stage : Stage d base r)
    (askable : d.locate (.ofText r) ≠ .error .nameTooLong) {earlier : List Call}
    (used : ∀ c ∈ earlier, c.request.Uses d base r) (c : Call) (uses : c.request.Uses d base r) :
    c.request.Answers base r c.now (history d earlier).2 (c.outcome (history d earlier).1) :=
  ((stage.reached_history askable used).performed stage c uses).1

/-! ## Worked commands -/

def bare : Disk := { top := .directory [] }

theorem bare_stage {r : String} (absent : bare.node? (.ofText r) = none)
    (apart : ∀ place, bare.locate (.ofText r) = .ok place →
      place ∉ SettingsFile.candidates bare.here) : Stage bare .default r where
  configured := ⟨.nothing, [], rfl, rfl, Settings.check_default⟩
  textual := ⟨_, rfl⟩
  absent := absent
  apart := apart

def viewCall (r : String) : Call where
  now := newYear
  args := ["view", "-r", r]
  verbose := false
  request := .view (some r)
  read := rfl

def rowName (n : Nat) : String := .ofList (List.replicate n 'x')

theorem rowName_isName {n : Nat} (filled : 2 < n) : Node.IsName (rowName n) := by
  have only (c : Char) (member : c ∈ (rowName n).toList) : c = 'x' := by
    rw [rowName, String.toList_ofList] at member
    exact (List.mem_replicate.mp member).2
  have apart (short : String) (few : short.length ≤ 2) : rowName n ≠ short := by
    rintro rfl
    rw [rowName, String.length_ofList, List.length_replicate] at few
    omega
  refine ⟨apart "" (by decide), ⟨apart "." (by decide), apart ".." (by decide)⟩, ?_, ?_⟩
  · intro member
    cases only _ member
  · intro member
    cases only _ member

/-- The files of a directory cannot be asked about a name that is too long. -/
theorem bare_locate_rowName {n : Nat} (large : Disk.longestName < (rowName n).utf8ByteSize)
    (filled : 2 < n) : bare.locate (.ofText (rowName n)) = .error .nameTooLong := by
  have valid := rowName_isName filled
  rw [Path.ofText_name valid, Disk.locate]
  have clean : Path.hasNull ⟨.relative, [rowName n]⟩ = false := by
    simpa [Path.hasNull] using valid.noNull
  rw [clean, if_neg Bool.false_ne_true]
  split
  · rfl
  · exact if_pos large

/-- Where a name is too long `view` comes to no end of its own. -/
theorem view_unanswered (configured : Configured d base)
    (tooLong : d.locate (.ofText r) = .error .nameTooLong) (kept : Option Stored) :
    ¬ (viewCall r).request.Answers base r newYear kept ((viewCall r).outcome d) := by
  obtain ⟨log, run⟩ :=
    @exec_view_unasked base r { disk := d } configured (some r) rfl tooLong
  have viewed : (viewCall r).outcome d = (view (some r)).outcome d := Call.outcome_eq _ d
  rintro ⟨finished, _⟩
  rw [viewed, outcome_eq, run] at finished
  cases finished

/-- No report has a name of 300 letters, but `view` cannot find that out. -/
theorem long_name_unanswered :
    Stage bare .default (rowName 300) ∧
    (viewCall (rowName 300)).request.Uses bare .default (rowName 300) ∧
    ¬ (viewCall (rowName 300)).request.Answers .default (rowName 300) newYear (history bare []).2
      ((viewCall (rowName 300)).outcome (history bare []).1) := by
  have tooLong : bare.locate (.ofText (rowName 300)) = .error .nameTooLong :=
    bare_locate_rowName (by decide +kernel) (by decide)
  have stage : Stage bare .default (rowName 300) := by
    apply bare_stage
    · rw [Disk.node?, tooLong]
    · intro place leads
      rw [tooLong] at leads
      cases leads
  exact ⟨stage, rfl, view_unanswered stage.configured tooLong _⟩

def quietScan (directory r : String) : ScanOptions where
  directory := some directory
  surplus := none
  blockSizes := []
  minTokens := none
  minLines := none
  maxBlocks := none
  extensions := []
  excludedDirs := []
  top := none
  workers := none
  report := some r
  output := none
  quiet := true

def analyzeCall (directory r : String)
    (read : Invocation.ofArguments ["analyze", directory, "-q", "-r", r] =
      .ok ⟨false, .analyze (quietScan directory r)⟩) : Call where
  now := newYear
  args := _
  verbose := false
  request := _
  read := read

def savedThenFailed : List Call :=
  [analyzeCall "." "r.json" rfl, analyzeCall "gone" "r.json" rfl]

/-- A report that was saved outlives an analysis that fails. -/
theorem saved_report_remembered :
    Stage bare .default "r.json" ∧ bare.locate (.ofText "r.json") ≠ .error .nameTooLong ∧
    (∀ c ∈ savedThenFailed, c.request.Uses bare .default "r.json") ∧
    ((viewCall "r.json").outcome (history bare savedThenFailed).1).ending = .finished ∧
    ((viewCall "r.json").outcome (history bare savedThenFailed).1).state.out =
      "📊 Report Summary:\n\nTotal patterns: 0\nTotal duplicated lines: 0\n" ++
        "Average duplication: 0.0 lines\n\nFull report: r.json\n" := by
  have leads : bare.locate (.ofText "r.json") = .ok ["r.json"] := by decide +kernel
  have stage : Stage bare .default "r.json" := by
    apply bare_stage
    · decide +kernel
    · intro place there
      rw [leads] at there
      cases there
      decide +kernel
  have askable : bare.locate (.ofText "r.json") ≠ .error .nameTooLong := by
    rw [leads]
    decide
  have used : ∀ c ∈ savedThenFailed, c.request.Uses bare .default "r.json" := by
    simp only [savedThenFailed, List.forall_mem_cons]
    exact ⟨⟨rfl, nofun⟩, ⟨rfl, nofun⟩, List.forall_mem_nil _⟩
  obtain ⟨finished, out, _⟩ := report_remembered stage askable used (viewCall "r.json") rfl
  refine ⟨stage, askable, used, finished, out.trans ?_⟩
  decide +kernel

end Command

end CloneScan
