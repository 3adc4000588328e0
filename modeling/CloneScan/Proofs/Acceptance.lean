import CloneScan.Proofs.Running
import CloneScan.Proofs.Validity

/-! Settings from the fields of a settings file and from changes. What is said last about a setting
counts, and what nothing is said about stays as it is. So every chain of changes comes down to one
list of fields, and settings stay valid through it. What is refused is refused with a message that
names the setting, if the message can be written. -/
namespace CloneScan

namespace Settings

/-! ## What is said about a setting -/

/-- What fields say about a setting. Of several fields of one name the last one counts. -/
def said? (fields : List (String × Value)) (setting : Setting) : Option Value :=
  fields.reverse.lookup setting.name

def values (fields : List (String × Value)) : Raw := fun setting =>
  (said? fields setting).getD setting.defaultValue

theorem said?_cons (field : String × Value) (rest : List (String × Value)) (setting : Setting) :
    said? (field :: rest) setting =
      (said? rest setting).or (if field.1 = setting.name then some field.2 else none) := by
  obtain ⟨name, v⟩ := field
  rw [said?, List.reverse_cons, List.lookup_append, ← said?]
  congr 1
  by_cases named : name = setting.name
  · simp [named]
  · simp [List.lookup_cons, named, beq_eq_false_iff_ne.mpr (Ne.symm named)]

theorem merge_append (raw : Raw) (front back : List (String × Value)) :
    merge raw (front ++ back) = merge (merge raw front) back := by
  rw [merge, List.foldl_append]
  rfl

theorem merge_named (raw : Raw) (setting : Setting) (v : Value) :
    merge raw [(setting.name, v)] = raw.set setting v := by
  simp only [merge, List.foldl_cons, List.foldl_nil, Setting.ofName?_name]

theorem merge_single (raw : Raw) (field : String × Value) (setting : Setting) :
    merge raw [field] setting = if field.1 = setting.name then field.2 else raw setting := by
  split
  next named =>
    have spelled : [field] = [(setting.name, field.2)] := by rw [← named]
    rw [spelled, merge_named, Raw.set, if_pos rfl]
  next other =>
    rw [merge, List.foldl_cons, List.foldl_nil]
    cases found : Setting.ofName? field.1 with
    | none => rfl
    | some named =>
      refine if_neg ?_
      rintro rfl
      exact other (Setting.ofName?_eq_some_iff.mp found)

/-- Merging takes what is said about a setting, and leaves the settings that nothing is said about. -/
theorem merge_eq (raw : Raw) (fields : List (String × Value)) (setting : Setting) :
    merge raw fields setting = (said? fields setting).getD (raw setting) := by
  induction fields generalizing raw with
  | nil => rfl
  | cons field rest ih =>
    have step : merge raw (field :: rest) = merge (merge raw [field]) rest :=
      merge_append raw [field] rest
    rw [step, ih, merge_single, said?_cons]
    cases said? rest setting with
    | some v => rfl
    | none => by_cases named : field.1 = setting.name <;> simp [named]

theorem merge_other {setting : Setting} {fields : List (String × Value)}
    (other : ∀ field ∈ fields, field.1 ≠ setting.name) (raw : Raw) :
    merge raw fields setting = raw setting := by
  have unsaid : said? fields setting = none := by
    rw [said?, List.lookup_eq_none_iff]
    exact fun field member => bne_iff_ne.mpr (other field (List.mem_reverse.mp member)).symm
  rw [merge_eq, unsaid]
  rfl

theorem ofFields_eq (fields : List (String × Value)) : ofFields fields = check (values fields) := by
  rw [ofFields]
  congr 1
  funext setting
  exact merge_eq _ fields setting

theorem listed_raw (s : Settings) : s.raw.listed = s.raw := (raw_of_check (check_raw s)).symm

/-- Making a list of what is one already changes nothing. -/
theorem listed_merge_listed (raw : Raw) (fields : List (String × Value)) :
    (merge raw.listed fields).listed = (merge raw fields).listed := by
  have again (v : Value) : (Value.list (v.elements?.getD [])).elements? = v.elements?.getD [] := rfl
  funext setting
  simp only [Raw.listed, merge_eq]
  cases said? fields setting with
  | some v => rfl
  | none => split <;> simp [again]

/-! ## Changes -/

def kept (changes : List (String × Value)) : List (String × Value) :=
  changes.filter fun change => !change.2.isNull

/-- A change that is accepted is checked together with what is left as it is. -/
theorem check_of_replace {s t : Settings} {changes : List (String × Value)}
    (replaced : s.replace changes = .ok t) : check (merge s.raw (kept changes)) = .ok t := by
  rw [replace] at replaced
  split at replaced
  · cases replaced
  · split at replaced
    · cases replaced
    · exact replaced

/-- What is in force after a change: what the change says, and else what was in force. -/
theorem raw_of_replace {s t : Settings} {changes : List (String × Value)}
    (replaced : s.replace changes = .ok t) : t.raw = (merge s.raw (kept changes)).listed :=
  raw_of_check (check_of_replace replaced)

/-- A chain of changes, up to the first one that is refused. -/
def replaceAll (s : Settings) (chain : List (List (String × Value))) : Except Fault Settings :=
  chain.foldlM replace s

/-- What is in force after a chain of changes, each of them accepted: what was said last. -/
theorem raw_of_replaceAll {s t : Settings} {chain : List (List (String × Value))}
    (replaced : s.replaceAll chain = .ok t) :
    t.raw = (merge s.raw (kept chain.flatten)).listed := by
  induction chain generalizing s with
  | nil =>
    cases replaced
    exact (listed_raw _).symm
  | cons changes rest ih =>
    rw [replaceAll, List.foldlM_cons] at replaced
    obtain ⟨u, first, later⟩ := bind_eq_ok.mp replaced
    rw [ih later, raw_of_replace first, listed_merge_listed, ← merge_append]
    simp only [kept, List.flatten_cons, List.filter_append]

theorem values_append (fields more : List (String × Value)) :
    values (fields ++ more) = merge (values fields) more := by
  funext setting
  rw [merge_eq, values, values, said?, List.reverse_append, List.lookup_append, ← said?, ← said?]
  cases said? more setting <;> rfl

/-! ## Messages -/

def Fault.setting? : Fault → Option Setting
  | notPositive setting _ => some setting
  | noBlockSizes | blockSizeNotPositive _ => some .blockSizes
  | _ => none

/-- A message starts with the name of the setting at fault. -/
theorem Fault.name_prefix_message {f : Fault} {setting : Setting} (about : f.setting? = some setting) :
    setting.name.toList <+: f.message.toList := by
  cases f with
  | notPositive named got =>
    cases about
    have message : (notPositive setting got).message =
        setting.name ++ " must be a positive integer, got " ++ got.literal := rfl
    simp [message]
  | noBlockSizes =>
    cases about
    decide +kernel
  | blockSizeNotPositive got =>
    cases about
    have message : (blockSizeNotPositive got).message =
        Setting.blockSizes.name ++ " must be positive integers, got " ++ got.literal := rfl
    simp [message]
  | _ => cases about

/-- The value that the message shows can be written, so that the message can be told. -/
def Fault.Telling (f : Fault) : Prop := ∀ v, f.shown? = some v → v.writeFault? = none

end Settings

namespace Command

open Run

variable {f : Settings.Fault} {v : Value} {w : Value.WriteFault}

/-- Nobody answers for a message that cannot be written. -/
theorem exec_refuseSettings_untold (shown : f.shown? = some v) (untold : v.writeFault? = some w)
    (s : State) :
    exec (refuseSettings f : Run Settings) s = (.error (.crash (.value (.write w))), s) := by
  rw [refuseSettings, shown, Option.bind_some, untold]
  rfl

/-- Settings are refused with a message if it can be told. -/
theorem exec_refuseSettings_refused_iff (f : Settings.Fault) (s : State) :
    (exec (refuseSettings f : Run Settings) s).1 = .error .refused ↔ f.Telling := by
  rw [Settings.Fault.Telling]
  cases shown : f.shown? with
  | none => simp [refuseSettings, shown]
  | some v =>
    cases writing : v.writeFault? with
    | none => simp [refuseSettings, shown, writing]
    | some w => simp [exec_refuseSettings_untold shown writing, writing]

end Command

namespace Settings

/-- What is given for settings is accepted exactly if it is allowed setting by setting. It is refused
for what is wrong with it first; the message names the setting, and is told unless the value in it
cannot be written. Settings that were accepted hold what was said last about each setting, through any
number of changes, and all of it is allowed: no window size and no limit is below one. -/
theorem accepted_iff_allowed (fields : List (String × Value)) :
    ((∃ s, ofFields fields = .ok s) ↔
      ∀ setting v, said? fields setting = some v → Allowed setting v) ∧
    (∀ f, ofFields fields = .error f ↔ Offends (values fields) f) ∧
    (∀ f, Offends (values fields) f →
      ((∃ v, f = .notIterable v) ∨
        ∃ setting, f.setting? = some setting ∧ setting.name.toList <+: f.message.toList) ∧
      ∀ state, (Command.Run.exec (Command.refuseSettings f : Command.Run Settings) state).1 =
        .error .refused ↔ f.Telling) ∧
    ∀ s, ofFields fields = .ok s → ∀ chain t, s.replaceAll chain = .ok t →
      t.raw = (values (fields ++ kept chain.flatten)).listed ∧
      (∀ setting, Allowed setting (t.raw setting)) ∧
      (∀ size ∈ t.blockSizes, 1 ≤ size.val) ∧ 1 ≤ t.maxBlocksPerFile.val := by
  refine ⟨?_, fun f => ?_, fun f offends => ⟨?_, ?_⟩, fun s made chain t replaced => ⟨?_, ?_, ?_, ?_⟩⟩
  · rw [ofFields_eq, check_accepts_iff]
    constructor
    · intro allowed setting v said
      have given := allowed setting
      rwa [values, said] at given
    · intro allowed setting
      rw [values]
      cases said : said? fields setting with
      | none => exact allowed_default setting
      | some v => exact allowed setting v said
  · rw [ofFields_eq, check_eq_error]
  · rcases offends with first | ⟨lists, first⟩ | ⟨lists, numbers, sizes, first⟩ | _
    · exact .inl ⟨_, rfl⟩
    all_goals exact .inr ⟨_, rfl, Fault.name_prefix_message rfl⟩
  · exact Command.exec_refuseSettings_refused_iff f
  · rw [ofFields_eq] at made
    rw [raw_of_replaceAll replaced, raw_of_check made, listed_merge_listed, values_append]
  · exact allowed_raw t
  · exact fun size _ => size.property
  · exact t.maxBlocksPerFile.property

def endless : Value := .list [.int (Nat.pow 10 4300)]

/-- A list is no number of lines, but this one cannot be shown, so nobody is told. -/
theorem long_number_not_told :
    ofFields [("min_lines", endless)] = .error (.notPositive .minLines endless) ∧
    endless.writeFault? = some .numberTooLong ∧
    (Command.Run.exec (Command.refuseSettings (.notPositive .minLines endless) : Command.Run Settings)
      { disk := ⟨.directory [], "", []⟩ }).1 = .error (.crash (.value (.write .numberTooLong))) := by
  have untold : endless.writeFault? = some .numberTooLong := by decide +kernel
  refine ⟨?_, untold, ?_⟩
  · rfl
  · rw [Command.exec_refuseSettings_untold rfl untold]

end Settings

end CloneScan
