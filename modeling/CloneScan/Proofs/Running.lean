import CloneScan.Command.Perform
import Mathlib.Logic.Basic

/-! What a command makes of a state. Each step has one equation here, and two steps in a row are taken
apart by one lemma, so no later proof looks into how steps are put together. A quiet step prints and
logs at most: it leaves the disk as it was. -/
namespace CloneScan.Command.Run

def exec (command : Run α) (s : State) : Except Stop α × State := command.run.run s

theorem exec_bind (command : Run α) (next : α → Run β) (s : State) :
    exec (command >>= next) s =
      match exec command s with
      | (.ok a, t) => exec (next a) t
      | (.error why, t) => (.error why, t) := by
  change ExceptT.bind command next s = _
  simp only [ExceptT.bind, ExceptT.mk, bind, StateT.bind, exec, ExceptT.run, StateT.run]
  rcases command s with ⟨_ | _, t⟩ <;> rfl

/-- The ending of a command tells how its last step ended. -/
theorem outcome_eq (command : Run Unit) (d : Disk) :
    command.outcome d =
      match exec command { disk := d } with
      | (.ok _, s) => ⟨s, .finished⟩
      | (.error why, s) => ⟨s, .stopped why⟩ := rfl

theorem outcome_state (command : Run Unit) (d : Disk) :
    (command.outcome d).state = (exec command { disk := d }).2 := by
  rw [outcome_eq]
  rcases exec command { disk := d } with ⟨_ | _, s⟩ <;> rfl

theorem outcome_stopped {command : Run Unit} {d : Disk} {why : Stop} :
    (command.outcome d).ending = .stopped why ↔
      exec command { disk := d } = (.error why, (command.outcome d).state) := by
  rw [outcome_eq]
  rcases exec command { disk := d } with ⟨_ | _, s⟩ <;> simp

theorem outcome_eq_finished {command : Run Unit} {d : Disk} {s : State} :
    command.outcome d = ⟨s, .finished⟩ ↔ exec command { disk := d } = (.ok (), s) := by
  rw [outcome_eq]
  rcases exec command { disk := d } with ⟨_ | _, t⟩ <;> simp

section Steps

variable (s : State)

@[simp] theorem exec_pure (a : α) : exec (pure a) s = (.ok a, s) := rfl

@[simp] theorem exec_throw (why : Stop) : exec (throw why : Run α) s = (.error why, s) := rfl

@[simp] theorem exec_map (f : α → β) (command : Run α) :
    exec (f <$> command) s = ((exec command s).1.map f, (exec command s).2) := by
  rw [map_eq_pure_bind, exec_bind]
  rcases exec command s with ⟨_ | _, t⟩ <;> rfl

@[simp] theorem exec_print (text : String) :
    exec (print text) s = (.ok (), { s with out := s.out ++ Console.plain text }) := rfl

@[simp] theorem exec_echo (line : String) :
    exec (echo line) s = (.ok (), { s with out := s.out ++ Console.plain (line ++ "\n") }) := rfl

@[simp] theorem exec_complain (line : String) :
    exec (complain line) s = (.ok (), { s with err := s.err ++ Console.plain (line ++ "\n") }) := rfl

@[simp] theorem exec_tell (records : List LogRecord) :
    exec (tell records) s = (.ok (), { s with log := s.log ++ records }) := rfl

@[simp] theorem exec_disk : exec disk s = (.ok s.disk, s) := rfl

@[simp] theorem exec_setDisk (d : Disk) : exec (setDisk d) s = (.ok (), { s with disk := d }) := rfl

@[simp] theorem exec_refuse (line : String) :
    exec (refuse line : Run α) s =
      (.error .refused, { s with err := s.err ++ Console.plain (line ++ "\n") }) := rfl

@[simp] theorem exec_need_ok (crash : ε → Crash) (a : α) :
    exec (need crash (.ok a)) s = (.ok a, s) := rfl

@[simp] theorem exec_need_error (crash : ε → Crash) (f : ε) :
    exec (need crash (.error f) : Run α) s = (.error (.crash (crash f)), s) := rfl

@[simp] theorem exec_pathOf (path : String) :
    exec (pathOf (.text path)) s = (.ok (.ofText path), s) := rfl

/-- Lines that are printed one after the other are printed together. -/
theorem exec_forM_echo (lines : List String) :
    exec (lines.forM echo) s =
      (.ok (), { s with out := s.out ++ String.join (lines.map fun l => Console.plain (l ++ "\n")) }) := by
  induction lines generalizing s with
  | nil => simp [String.join]
  | cons line rest ih =>
    change exec (echo line >>= fun _ => rest.forM echo) s = _
    simp only [exec_bind, exec_echo, ih, List.map_cons, String.join_cons, String.append_assoc]

end Steps

/-- Two steps come to an end together if each does in its turn. -/
theorem exec_bind_eq_ok {command : Run α} {next : α → Run β} {s t : State} {b : β} :
    exec (command >>= next) s = (.ok b, t) ↔
      ∃ a u, exec command s = (.ok a, u) ∧ exec (next a) u = (.ok b, t) := by
  rw [exec_bind]
  rcases exec command s with ⟨_ | a, u⟩
  · simp
  · constructor
    · exact fun rest => ⟨a, u, rfl, rest⟩
    · rintro ⟨_, _, ⟨⟩, rest⟩
      exact rest

theorem exec_need_eq_ok {crash : ε → Crash} {result : Except ε α} {s t : State} {a : α} :
    exec (need crash result) s = (.ok a, t) ↔ result = .ok a ∧ t = s := by
  cases result <;> simp [@eq_comm _ s]

theorem exec_pathOf_eq_ok {v : Value} {s t : State} {path : Path} :
    exec (pathOf v) s = (.ok path, t) ↔ ∃ text, v = .text text ∧ path = .ofText text ∧ t = s := by
  cases v <;> simp [pathOf, @eq_comm _ s, @eq_comm _ path]

/-! ## Steps that write nothing -/

def Quiet (command : Run α) : Prop := ∀ s, (exec command s).2.disk = s.disk

theorem quiet_throw (why : Stop) : Quiet (throw why : Run α) := fun _ => rfl

theorem quiet_echo (line : String) : Quiet (echo line) := fun _ => rfl

/-- A quiet step keeps the disk for the step after it. -/
theorem Quiet.disk_eq {command : Run α} (quiet : Quiet command) {s t : State}
    {ended : Except Stop α} (run : exec command s = (ended, t)) : t.disk = s.disk := by
  have kept := quiet s
  rwa [run] at kept

end CloneScan.Command.Run
