import CloneScan.Proofs.Analyzing

/-! What an analysis leaves behind. It writes at the report, beside the report and at the copy it is
asked for, and nowhere else. If it ends with a word on what is wrong, or if its command line is wrong,
it has written nothing at all. -/
namespace CloneScan.Command

open Run

/-- Where an analysis may write: where a save of its report may, and at its copy. -/
def ScanOptions.MayWrite (o : ScanOptions) (d : Disk) (place : Location) : Prop :=
  (∃ settings report, InForce d o.changes settings ∧ settings.reportPath = .text report ∧
    Store.Reaches d (.ofText report) place) ∨
  ∃ output, o.output = some output ∧ d.locate (.ofText output) = .ok place

theorem analyze_filesChangedAt (o : ScanOptions) (s : State) :
    s.disk.FilesChangedAt (o.MayWrite s.disk) (exec (analyze o) s).2.disk := by
  rw [analyze_eq, exec_bind]
  have quiet := quiet_survey o s
  rcases surveyed : exec (survey o) s with ⟨why | v, t⟩
  all_goals rw [surveyed] at quiet
  · rw [quiet]
    exact .refl _ _
  · have found := survey_eq_ok surveyed
    rw [← quiet] at found ⊢
    refine (keep_filesChangedAt found).mono fun place changed => ?_
    rcases changed with saved | ⟨c, asked, copied⟩
    · obtain ⟨report, textual, path⟩ := found.path
      rw [path] at saved
      exact .inl ⟨v.settings, report, found.inForce, textual, saved⟩
    · obtain ⟨named, path, _⟩ := found.copy c asked
      rw [path] at copied
      exact .inr ⟨c.1, named, copied⟩

/-- Whatever an analysis can answer for goes wrong before it writes. -/
theorem analyze_unchanged {o : ScanOptions} {s t : State} {why : Stop}
    (stopped : exec (analyze o) s = (.error why, t)) (answered : ∀ c, why ≠ .crash c) :
    t.disk = s.disk := by
  rw [analyze_eq, exec_bind] at stopped
  rcases surveyed : exec (survey o) s with ⟨earlier | v, u⟩
  all_goals rw [surveyed] at stopped
  · cases stopped
    exact (quiet_survey o).disk_eq surveyed
  · obtain ⟨c, crash⟩ := unanswered_keep v u why t stopped
    exact absurd crash (answered c)

/-- Only a wrong command line is told by this code. -/
theorem Ending.code_eq_two {ending : Ending} :
    ending.code = 2 ↔ ∃ f, ending = .stopped (.usage f) := by
  rcases ending with _ | ⟨f | _ | c⟩ <;> simp [code]

/-! ## Command lines -/

/-- A command line whose command, if it can be told, is `analyze`. -/
def AsksToAnalyze (args : List String) : Prop :=
  ∀ given, scan generalSpellings false none args = .ok given →
    ∃ rest, given.operands = "analyze" :: rest

/-- Where the analysis that a command line asks for may write. -/
def MayWrite (args : List String) (d : Disk) (place : Location) : Prop :=
  ∃ verbose o, Invocation.ofArguments args = .ok ⟨verbose, .analyze o⟩ ∧ o.MayWrite d place

theorem Given.atOnce?_eq_some {g : Given} {request : Request} (atOnce : g.atOnce? = some request) :
    request = .help ∨ request = .version := by
  obtain ⟨o, _, found⟩ := List.exists_of_findSome?_eq_some atOnce
  split at found <;> simp_all

theorem readCommand_eq_ok {known : Spellings} {read : Given → Except Fault Request}
    {args : List String} {request : Request} (found : readCommand known read args = .ok request) :
    request = .help ∨ request = .version ∨ ∃ g, read g = .ok request := by
  unfold readCommand at found
  cases scanned : scan known true none args with
  | error f =>
    rw [scanned] at found
    cases found
  | ok g =>
    rw [scanned] at found
    cases atOnce : g.atOnce? with
    | none => exact .inr (.inr ⟨g, by simpa [bind, Except.bind, atOnce] using found⟩)
    | some other =>
      have same : other = request := by
        simpa [bind, Except.bind, pure, Except.pure, atOnce] using found
      subst same
      rcases Given.atOnce?_eq_some atOnce with help | version
      · exact .inl help
      · exact .inr (.inl version)

theorem AsksToAnalyze.request {args : List String} (asked : AsksToAnalyze args)
    {invocation : Invocation} (read : Invocation.ofArguments args = .ok invocation) :
    invocation.request = .help ∨ invocation.request = .version ∨
      ∃ o, invocation.request = .analyze o := by
  unfold Invocation.ofArguments at read
  cases scanned : scan generalSpellings false none args with
  | error f =>
    rw [scanned] at read
    cases read
  | ok given =>
    obtain ⟨rest, operands⟩ := asked given scanned
    rw [scanned] at read
    simp only [bind, Except.bind] at read
    cases atOnce : given.atOnce? with
    | some request =>
      rw [atOnce] at read
      cases read
      rcases Given.atOnce?_eq_some atOnce with help | version
      · exact .inl help
      · exact .inr (.inl version)
    | none =>
      rw [atOnce, operands] at read
      cases found : Request.ofArguments ("analyze" :: rest) with
      | error f =>
        rw [found] at read
        cases read
      | ok request =>
        rw [found] at read
        cases read
        rcases readCommand_eq_ok found with help | version | ⟨g, analyze⟩
        · exact .inl help
        · exact .inr (.inl version)
        · cases options : ScanOptions.ofGiven g with
          | error f =>
            rw [options] at analyze
            cases analyze
          | ok o =>
            rw [options] at analyze
            cases analyze
            exact .inr (.inr ⟨o, rfl⟩)

/-- An analysis touches the report, its temporary file and the copy, and nothing else. It leaves
everything as it was where it is told what is wrong with its settings, the extension of the copy, its
directory or the scan itself, and where its command line is wrong. -/
theorem analysis_touches_only (now : Timestamp) {args : List String} (asked : AsksToAnalyze args)
    (d : Disk) :
    let outcome := (ofArguments now args).outcome d
    d.ChangedOnlyAt (MayWrite args d) outcome.state.disk ∧
      (outcome.ending = .stopped .refused ∨ outcome.ending.code = 2 → outcome.state.disk = d) := by
  intro outcome
  have quiet {command : Run Unit} (performed : ofArguments now args = command)
      (silent : Quiet command) : outcome.state.disk = d := by
    have kept := silent { disk := d }
    rwa [← performed, ← outcome_state] at kept
  have unchanged (same : outcome.state.disk = d) :
      d.ChangedOnlyAt (MayWrite args d) outcome.state.disk ∧
        (outcome.ending = .stopped .refused ∨ outcome.ending.code = 2 → outcome.state.disk = d) := by
    rw [same]
    exact ⟨.refl _ d, fun _ => rfl⟩
  cases read : Invocation.ofArguments args with
  | error f =>
    exact unchanged (quiet (by simp only [ofArguments, read]) (quiet_throw (.usage f)))
  | ok invocation =>
    have performed : ofArguments now args = perform now invocation.request := by
      simp only [ofArguments, read]
    rcases asked.request read with help | version | ⟨o, analysis⟩
    · rw [help] at performed
      exact unchanged (quiet performed (quiet_echo usage))
    · rw [version] at performed
      exact unchanged (quiet performed (quiet_echo versionText))
    · rw [analysis] at performed
      have state : outcome.state = (exec (analyze o) { disk := d }).2 := by
        rw [outcome_state, performed]
        rfl
      constructor
      · rw [state]
        refine ((analyze_filesChangedAt o { disk := d }).mono fun place written => ?_).toChangedOnlyAt
        exact ⟨invocation.verbose, o, by rw [read, ← analysis], written⟩
      · intro answered
        have told : ∃ why, outcome.ending = .stopped why ∧ ∀ c, why ≠ .crash c := by
          rcases answered with refused | wrong
          · exact ⟨.refused, refused, by simp⟩
          · obtain ⟨f, ended⟩ := Ending.code_eq_two.mp wrong
            exact ⟨.usage f, ended, by simp⟩
        obtain ⟨why, ended, answerable⟩ := told
        have stopped : exec (analyze o) { disk := d } = (.error why, outcome.state) := by
          rw [← outcome_stopped.mp ended, performed]
          rfl
        exact analyze_unchanged stopped answerable

def copyingArguments (output : String) : List String :=
  ["analyze", ".", "-q", "-r", "r.json", "-o", output]

def newYear : Timestamp where
  date := {
    year := 2025, month := 1, day := 1
    year_mem := by decide
    month_mem := by decide
    day_mem := by decide }
  clock := {
    hour := 0, minute := 0, second := 0, microsecond := 0
    hour_lt := by decide
    minute_lt := by decide
    second_lt := by decide
    microsecond_lt := by decide }

def copyingOutcome (output : String) : Outcome :=
  (ofArguments newYear (copyingArguments output)).outcome Store.occupied

/-- An analysis with a copy puts its report in the place of another file. Where the copy cannot be
written in the form that its name asks for, that file stays. -/
theorem copying_analysis_touches_only :
    ((copyingOutcome "copy.md").ending = .finished ∧
      (copyingOutcome "copy.md").state.disk.holds ⟨.relative, ["copy.md"]⟩ = .ok true ∧
      Store.occupied.ChangedOnlyAt (MayWrite (copyingArguments "copy.md") Store.occupied)
        (copyingOutcome "copy.md").state.disk) ∧
    (copyingOutcome "copy.pdf").ending = .stopped .refused ∧
      (copyingOutcome "copy.pdf").state.disk = Store.occupied := by
  have asked (output : String) : AsksToAnalyze (copyingArguments output) := by
    intro given scanned
    cases scanned
    exact ⟨_, rfl⟩
  have refused : (copyingOutcome "copy.pdf").ending = .stopped .refused := by
    decide +kernel
  constructor
  · refine ⟨by decide +kernel, by decide +kernel, ?_⟩
    exact (analysis_touches_only newYear (asked "copy.md") Store.occupied).1
  · exact ⟨refused, (analysis_touches_only newYear (asked "copy.pdf") Store.occupied).2 (.inl refused)⟩

end CloneScan.Command
