import CloneScan.Proofs.Running

/-! Steps that are steady on some disks: there they all end in one way and add the same words to what
has been printed and logged. A steady command does on one of these disks what it did on another, and
what it prints does not depend on what was printed before. -/
namespace CloneScan.Command

structure Words where
  out : String := ""
  err : String := ""
  log : List LogRecord := []

instance : Append Words := ⟨fun v w => ⟨v.out ++ w.out, v.err ++ w.err, v.log ++ w.log⟩⟩

namespace State

variable (s : State) (v w : Words)

def adding : State :=
  { s with out := s.out ++ w.out, err := s.err ++ w.err, log := s.log ++ w.log }

theorem adding_append : s.adding (v ++ w) = (s.adding v).adding w := by
  simp only [adding, String.append_assoc, List.append_assoc]
  rfl

@[simp] theorem adding_nothing : s.adding {} = s := by
  simp [adding]

end State

namespace Run

/-- One result and one addition on all of these disks, which it keeps. -/
def Steady (disks : Disk → Prop) (command : Run α) : Prop :=
  ∃ result words, ∀ s, disks s.disk → exec command s = (result, s.adding words)

variable {disks : Disk → Prop}

/-- What a steady command did on one disk it does on the others. -/
theorem Steady.again {command : Run α} (steady : Steady disks command) {s t : State} {e : Disk}
    {result : Except Stop α} (run : exec command s = (result, t)) (first : disks s.disk)
    (second : disks e) : exec command { s with disk := e } = (result, { t with disk := e }) := by
  obtain ⟨ending, words, told⟩ := steady
  rw [told s first] at run
  obtain ⟨rfl, rfl⟩ := Prod.mk.inj run
  exact told { s with disk := e } second

/-- What is steady on each disk alone writes nothing. -/
theorem quiet_of_steady {command : Run α} (steady : ∀ d, Steady (· = d) command) :
    Quiet command := by
  intro s
  obtain ⟨result, words, told⟩ := steady s.disk
  rw [told s rfl]
  rfl

/-- The second step has to be steady only for those ends that the first one comes to. -/
theorem Steady.bind_reached {command : Run α} {next : α → Run β} (first : Steady disks command)
    (second : ∀ a, (∃ s t, disks s.disk ∧ exec command s = (.ok a, t)) → Steady disks (next a)) :
    Steady disks (command >>= next) := by
  obtain ⟨result, words, told⟩ := first
  by_cases reached : ∃ s : State, disks s.disk
  · obtain ⟨s, known⟩ := reached
    cases result with
    | error why =>
      refine ⟨.error why, words, fun s known => ?_⟩
      rw [exec_bind, told s known]
    | ok a =>
      obtain ⟨ending, more, rest⟩ := second a ⟨s, _, known, told s known⟩
      refine ⟨ending, words ++ more, fun s known => ?_⟩
      rw [exec_bind, told s known, State.adding_append]
      exact rest (s.adding words) known
  · exact ⟨.error .refused, {}, fun s known => absurd ⟨s, known⟩ reached⟩

theorem Steady.bind {command : Run α} {next : α → Run β} (first : Steady disks command)
    (second : ∀ a, Steady disks (next a)) : Steady disks (command >>= next) :=
  first.bind_reached fun a _ => second a

/-- A step that reads from the disk is steady where it reads the same. -/
theorem Steady.reading {next : Disk → Run α} (d : Disk) (same : ∀ e, disks e → next e = next d)
    (steady : Steady disks (next d)) : Steady disks (disk >>= next) := by
  obtain ⟨result, words, told⟩ := steady
  refine ⟨result, words, fun s known => ?_⟩
  rw [exec_bind, exec_disk]
  dsimp only
  rw [same s.disk known, told s known]

theorem Steady.map {command : Run α} (steady : Steady disks command) (f : α → β) :
    Steady disks (f <$> command) := by
  obtain ⟨result, words, told⟩ := steady
  refine ⟨result.map f, words, fun s known => ?_⟩
  rw [exec_map, told s known]

theorem Steady.ite {first second : Run α} (p : Prop) [Decidable p] (left : Steady disks first)
    (right : Steady disks second) : Steady disks (if p then first else second) := by
  split
  · exact left
  · exact right

/-! ## Steps that look at no disk -/

theorem steady_pure (a : α) : Steady disks (pure a : Run α) :=
  ⟨.ok a, {}, fun s _ => by rw [exec_pure, State.adding_nothing]⟩

theorem steady_throw (why : Stop) : Steady disks (throw why : Run α) :=
  ⟨.error why, {}, fun s _ => by rw [exec_throw, State.adding_nothing]⟩

theorem steady_print (text : String) : Steady disks (print text) :=
  ⟨.ok (), { out := Console.plain text }, fun s _ => by simp [State.adding]⟩

theorem steady_echo (line : String) : Steady disks (echo line) := steady_print _

theorem steady_complain (line : String) : Steady disks (complain line) :=
  ⟨.ok (), { err := Console.plain (line ++ "\n") }, fun s _ => by simp [State.adding]⟩

theorem steady_tell (records : List LogRecord) : Steady disks (tell records) :=
  ⟨.ok (), { log := records }, fun s _ => by simp [State.adding]⟩

theorem steady_refuse (line : String) : Steady disks (refuse line : Run α) :=
  (steady_complain line).bind fun _ => steady_throw _

theorem steady_need (crash : ε → Crash) (result : Except ε α) : Steady disks (need crash result) := by
  cases result with
  | ok a => exact steady_pure a
  | error f => exact steady_throw _

theorem steady_pathOf (v : Value) : Steady disks (pathOf v) := by
  cases v with
  | text s => exact steady_pure _
  | _ => exact steady_throw _

theorem steady_forM {step : α → Run Unit} (each : ∀ a, Steady disks (step a)) (xs : List α) :
    Steady disks (xs.forM step) := by
  induction xs with
  | nil => exact steady_pure ()
  | cons x rest ih => exact (each x).bind fun _ => ih

end Run

open Run

variable {disks : Disk → Prop}

theorem steady_settingsFields (table : Value) : Steady disks (settingsFields table) := by
  cases table with
  | record fields => exact steady_pure fields
  | _ => exact steady_throw _

theorem steady_refuseSettings (f : Settings.Fault) :
    Steady disks (refuseSettings f : Run α) := by
  unfold refuseSettings
  split
  · exact steady_throw _
  · exact steady_refuse _

theorem steady_copyOf (output : String) : Steady disks (copyOf output) := by
  delta copyOf
  dsimp only
  cases Report.Format.ofExtension? (Path.ofText output).suffix with
  | none => exact steady_refuse _
  | some format => exact steady_pure _

theorem steady_showProgress (p : Progress) : Steady disks (showProgress p) :=
  (steady_need _ _).bind fun line => (steady_print line).bind fun _ =>
    .ite _ (steady_echo "") (steady_pure ())

/-- A directory is checked alike where a file stands at its path alike. -/
theorem steady_checkDirectory {directory : Option String} (d : Disk)
    (same : ∀ path ∈ directory, ∀ e, disks e →
      ((e.node? (.ofText path)).any Node.isFile && !spelledAsDirectory path) =
        ((d.node? (.ofText path)).any Node.isFile && !spelledAsDirectory path)) :
    Steady disks (checkDirectory directory) := by
  cases directory with
  | none => exact steady_pure ()
  | some path =>
    have inside : Steady disks (disk >>= fun d =>
        if ((d.node? (.ofText path)).any Node.isFile && !spelledAsDirectory path) = true then
          throw (.usage (.notDirectory path)) else pure ()) := by
      refine Steady.reading d (fun e known => ?_) (.ite _ (steady_throw _) (steady_pure _))
      rw [same path rfl e known]
    exact .ite _ ((steady_throw _).bind fun _ => inside) inside

theorem steady_checkOperands {o : ScanOptions} (d : Disk)
    (same : ∀ path ∈ o.directory, ∀ e, disks e →
      ((e.node? (.ofText path)).any Node.isFile && !spelledAsDirectory path) =
        ((d.node? (.ofText path)).any Node.isFile && !spelledAsDirectory path)) :
    Steady disks (checkOperands o) := by
  refine (steady_checkDirectory d same).bind fun _ => ?_
  cases o.surplus with
  | none => exact steady_pure ()
  | some operand => exact steady_throw _

/-- Settings are found alike where their file is. -/
theorem steady_configure (changes : List (String × Value)) (d : Disk)
    (loaded : ∀ e, disks e → SettingsFile.load e (.ofText ".") = SettingsFile.load d (.ofText "."))
    (named : ∀ e, disks e → e.topName = d.topName) : Steady disks (configure changes) := by
  have records (finding : SettingsFile.Finding) (e : Disk) (known : disks e) :
      finding.records e = finding.records d := by
    cases finding <;> simp only [SettingsFile.Finding.records, Disk.absolute, named e known]
  refine Steady.reading d ?_ ?_
  · intro e known
    simp only [loaded e known, records _ e known]
  · refine (steady_need _ _).bind fun finding => (steady_tell _).bind fun _ =>
      (steady_settingsFields _).bind fun fields => (steady_tell _).bind fun _ => ?_
    split
    · exact steady_pure _
    · exact steady_refuseSettings _

/-- A tree is reported on alike where the run over it is the same. -/
theorem steady_scanTree (settings : Settings) (root : Path) (silent : Bool) (d : Disk)
    (same : ∀ e, disks e →
      Analysis.run settings e root root.text = Analysis.run settings d root root.text) :
    Steady disks (scanTree settings root silent) := by
  refine Steady.reading d ?_ ?_
  · intro e known
    simp only [same e known]
  · cases Analysis.run settings d root root.text with
    | ok a =>
      refine (steady_tell _).bind fun _ => ?_
      exact .ite _ ((steady_forM steady_showProgress _).bind fun _ => steady_pure _) (steady_pure _)
    | error f => cases f <;> exact (steady_tell _).bind fun _ => steady_refuse _

/-- Suggestions without templates are alike where the stored report is. -/
theorem steady_suggestFrom (settings : Settings) (now : Timestamp) (d : Disk) :
    Steady (· = d) (suggestFrom settings now false false) := by
  refine Steady.bind ?_ ?_
  · refine Steady.reading d ?_ ((steady_pathOf _).bind fun path => ?_)
    · rintro _ rfl
      rfl
    · split
      · exact steady_pure _
      · split
        · exact steady_pure _
        · exact .ite _ (steady_refuse _) (steady_throw _)
  · intro kept
    cases kept with
    | none => exact (steady_complain _).bind fun _ => steady_refuse _
    | some artifact =>
      refine (steady_echo _).bind fun _ => (steady_echo _).bind fun _ =>
        (steady_need _ _).bind fun templates => (steady_need _ _).bind fun text =>
        (steady_echo text).bind fun _ => ?_
      exact steady_forM steady_echo _

end CloneScan.Command
