import CloneScan.Proofs.Results
import CloneScan.Settings
import Mathlib.Data.Option.Basic

/-! Which values make settings, and what is wrong with the others. Each setting has a condition of its
own on its value. Values are accepted exactly if all of them meet their conditions, and the settings
then hold these values; otherwise the first one at fault is named, lists before numbers and numbers
before window sizes. -/
namespace CloneScan

namespace Setting

/-- Settings that are lists, in the order in which they are taken apart. -/
def lists : List Setting := [blockSizes, extensions, excludedDirs]

def numbers : List Setting := [
  minLines, minTokens, maxBlocksPerFile, topCount, previewLength, consolePreviewLength, workers]

theorem ofName?_eq_some_iff {name : String} {setting : Setting} :
    ofName? name = some setting ↔ name = setting.name := by
  constructor
  · intro found
    have spelled := List.find?_some (p := fun s : Setting => s.name == name) found
    exact (beq_iff_eq.mp spelled).symm
  · rintro rfl
    exact ofName?_name setting

end Setting

namespace Settings

/-! ## Conditions -/

/-- A whole number from one on. Truth values are not numbers. -/
def Counts (v : Value) : Prop := ∃ n : Int, v = .int n ∧ 1 ≤ n

/-- What may be given for a setting. -/
def Allowed : Setting → Value → Prop
  | .blockSizes, v => ∃ items, v.elements? = some items ∧ items ≠ [] ∧ ∀ w ∈ items, Counts w
  | .extensions, v | .excludedDirs, v => ∃ items, v.elements? = some items
  | .sourceDir, _ | .reportPath, _ | .utilitiesDir, _ => True
  | _, v => Counts v

theorem positive?_int (n : Positive) : positive? (.int n.val) = some n := by
  have positive : 0 < (n.val : Int).toNat := by
    rw [Int.toNat_natCast]
    exact n.property
  rw [positive?, dif_pos positive]
  rfl

theorem positive?_eq_some {v : Value} {n : Positive} : positive? v = some n ↔ v = .int n.val := by
  constructor
  · intro counted
    cases v with
    | int i =>
      rw [positive?] at counted
      split at counted
      next above =>
        cases counted
        simp only [Value.int.injEq]
        omega
      next => cases counted
    | _ => cases counted
  · rintro rfl
    exact positive?_int n

theorem positive?_eq_none {v : Value} : positive? v = none ↔ ¬ Counts v := by
  rw [← not_iff_not, not_not, ← ne_eq, Option.ne_none_iff_exists']
  constructor
  · rintro ⟨n, counted⟩
    exact ⟨n.val, positive?_eq_some.mp counted, by exact_mod_cast n.property⟩
  · rintro ⟨i, rfl, above⟩
    refine ⟨⟨i.toNat, by omega⟩, positive?_eq_some.mpr ?_⟩
    simp only [Value.int.injEq]
    omega

/-! ## Steps of the check -/

theorem elements_eq_ok {v : Value} {items : List Value} :
    elements v = .ok items ↔ v.elements? = some items := by
  rw [elements]
  cases v.elements? <;> simp

theorem positive_eq_ok {raw : Raw} {setting : Setting} {n : Positive} :
    positive raw setting = .ok n ↔ raw setting = .int n.val := by
  rw [← positive?_eq_some, positive]
  cases positive? (raw setting) <;> simp

theorem sizes_ints (ns : List Positive) : sizes (ns.map fun n => .int n.val) = .ok ns := by
  induction ns with
  | nil => rfl
  | cons n rest ih =>
    rw [List.map_cons, sizes, positive?_int]
    simp only [ih]
    rfl

theorem sizes_eq_ok {items : List Value} {ns : List Positive} :
    sizes items = .ok ns ↔ items = ns.map fun n => .int n.val := by
  constructor
  · intro counted
    induction items generalizing ns with
    | nil =>
      cases counted
      rfl
    | cons v rest ih =>
      rw [sizes] at counted
      split at counted
      next n positive =>
        cases others : sizes rest with
        | error f =>
          rw [others] at counted
          cases counted
        | ok ms =>
          rw [others] at counted
          cases counted
          rw [List.map_cons, ← positive?_eq_some.mp positive, ← ih others]
      next => cases counted
  · rintro rfl
    exact sizes_ints ns

/-! ## The first fault -/

/-- The first element of a list that is bad. -/
def First (xs : List α) (bad : α → Prop) (x : α) : Prop :=
  ∃ before after, xs = before ++ x :: after ∧ bad x ∧ ∀ y ∈ before, ¬ bad y

/-- What is wrong with values, where it is met first: a setting that is no list, or else a number that
is none, or else the window sizes. -/
inductive Offends (raw : Raw) : Fault → Prop where
  | notIterable (first : First Setting.lists (fun s => (raw s).elements? = none) setting) :
      Offends raw (.notIterable (raw setting))
  | notPositive (lists : ∀ s ∈ Setting.lists, (raw s).elements? ≠ none)
      (first : First Setting.numbers (fun s => ¬ Counts (raw s)) setting) :
      Offends raw (.notPositive setting (raw setting))
  | blockSizeNotPositive (lists : ∀ s ∈ Setting.lists, (raw s).elements? ≠ none)
      (numbers : ∀ s ∈ Setting.numbers, Counts (raw s))
      (sizes : (raw .blockSizes).elements? = some items)
      (first : First items (fun v => ¬ Counts v) v) : Offends raw (.blockSizeNotPositive v)
  | noBlockSizes (lists : ∀ s ∈ Setting.lists, (raw s).elements? ≠ none)
      (numbers : ∀ s ∈ Setting.numbers, Counts (raw s))
      (sizes : (raw .blockSizes).elements? = some []) : Offends raw .noBlockSizes

def faultOf : Except ε α → Option ε
  | .ok _ => none
  | .error f => some f

theorem faultOf_eq_some {result : Except ε α} {f : ε} : faultOf result = some f ↔ result = .error f := by
  cases result <;> simp [faultOf]

theorem faultOf_eq_none {result : Except ε α} : faultOf result = none ↔ ∃ a, result = .ok a := by
  cases result <;> simp [faultOf]

/-- What is wrong with two steps in a row is what is wrong with the first one, or else with the next. -/
theorem faultOf_bind {result : Except ε α} {next : α → Except ε β} {later : Option ε}
    (after : ∀ a, result = .ok a → faultOf (next a) = later) :
    faultOf (result >>= next) = (faultOf result).or later := by
  cases result with
  | error f => rfl
  | ok a => exact after a rfl

/-- A look at one thing that finds a fault in the bad ones only. -/
structure Objects (look : α → Option Fault) (bad : α → Prop) (told : α → Fault) : Prop where
  fault : ∀ x, bad x → look x = some (told x)
  pass : ∀ x, ¬ bad x → look x = none

section Looking

variable {look : α → Option Fault} {bad : α → Prop} {told : α → Fault} {xs : List α} {f : Fault}

theorem Objects.eq_none_iff (objects : Objects look bad told) {x : α} : look x = none ↔ ¬ bad x := by
  refine ⟨fun passed wrong => ?_, objects.pass x⟩
  rw [objects.fault x wrong] at passed
  cases passed

theorem Objects.eq_some_iff (objects : Objects look bad told) {x : α} :
    look x = some f ↔ bad x ∧ f = told x := by
  by_cases wrong : bad x
  · simp [objects.fault x wrong, wrong, eq_comm]
  · simp [objects.pass x wrong, wrong]

theorem Objects.findSome?_eq_none (objects : Objects look bad told) :
    xs.findSome? look = none ↔ ∀ x ∈ xs, ¬ bad x := by
  simp only [List.findSome?_eq_none_iff, objects.eq_none_iff]

/-- Looking at one thing after another finds the first one that is bad. -/
theorem Objects.findSome?_eq_some (objects : Objects look bad told) :
    xs.findSome? look = some f ↔ ∃ x, First xs bad x ∧ f = told x := by
  simp only [List.findSome?_eq_some_iff, objects.eq_none_iff, objects.eq_some_iff, First]
  constructor
  · rintro ⟨before, x, after, split, ⟨wrong, rfl⟩, fine⟩
    exact ⟨x, ⟨before, after, split, wrong, fine⟩, rfl⟩
  · rintro ⟨x, ⟨before, after, split, wrong, fine⟩, rfl⟩
    exact ⟨before, x, after, split, ⟨wrong, rfl⟩, fine⟩

end Looking

theorem objects_elements (raw : Raw) :
    Objects (fun s => faultOf (elements (raw s))) (fun s => (raw s).elements? = none)
      fun s => .notIterable (raw s) where
  fault s wrong := by rw [elements, wrong]; rfl
  pass s fine := by
    obtain ⟨items, listed⟩ := Option.ne_none_iff_exists'.mp fine
    rw [elements_eq_ok.mpr listed]
    rfl

theorem objects_positive (raw : Raw) :
    Objects (fun s => faultOf (positive raw s)) (fun s => ¬ Counts (raw s))
      fun s => .notPositive s (raw s) where
  fault s wrong := by rw [positive, positive?_eq_none.mpr wrong]; rfl
  pass s fine := by
    obtain ⟨n, counted⟩ := Option.ne_none_iff_exists'.mp (mt positive?_eq_none.mp fine)
    rw [positive, counted]
    rfl

def sizeFault? (v : Value) : Option Fault :=
  match positive? v with
  | some _ => none
  | none => some (.blockSizeNotPositive v)

theorem objects_size : Objects sizeFault? (fun v => ¬ Counts v) .blockSizeNotPositive where
  fault v wrong := by rw [sizeFault?, positive?_eq_none.mpr wrong]
  pass v fine := by
    obtain ⟨n, counted⟩ := Option.ne_none_iff_exists'.mp (mt positive?_eq_none.mp fine)
    rw [sizeFault?, counted]

theorem faultOf_sizes (items : List Value) : faultOf (sizes items) = items.findSome? sizeFault? := by
  induction items with
  | nil => rfl
  | cons v rest ih =>
    rw [sizes, List.findSome?_cons, sizeFault?]
    cases positive? v with
    | none => rfl
    | some n =>
      rw [← ih]
      cases sizes rest <;> rfl

/-- What is wrong with values: a setting that is no list, or else a number, or else the window
sizes. -/
def fault? (raw : Raw) : Option Fault :=
  (Setting.lists.findSome? fun s => faultOf (elements (raw s))).or
    ((Setting.numbers.findSome? fun s => faultOf (positive raw s)).or
      ((raw .blockSizes).elements?.bind fun items =>
        (items.findSome? sizeFault?).or (if items = [] then some .noBlockSizes else none)))

theorem findSome?_cons_or (f : α → Option β) (x : α) (rest : List α) :
    (x :: rest).findSome? f = (f x).or (rest.findSome? f) := by
  cases found : f x <;> simp [found]

theorem faultOf_check (raw : Raw) : faultOf (check raw) = fault? raw := by
  simp only [fault?, Setting.lists, Setting.numbers, findSome?_cons_or, List.findSome?_nil,
    Option.or_none, Option.or_assoc]
  refine faultOf_bind fun items taken => ?_
  iterate 9 refine faultOf_bind fun _ _ => ?_
  rw [elements_eq_ok.mp taken, Option.bind_some, ← faultOf_sizes]
  refine faultOf_bind fun ns counted => ?_
  have same : items = [] ↔ ns = [] := by rw [sizes_eq_ok.mp counted, List.map_eq_nil_iff]
  rw [if_congr same rfl rfl]
  by_cases empty : ns = []
  · rw [if_pos empty, dif_neg (not_not.mpr empty)]
    rfl
  · rw [if_neg empty, dif_pos empty]
    rfl

/-- Values are refused for what is wrong with them first. -/
theorem check_eq_error {raw : Raw} {f : Fault} : check raw = .error f ↔ Offends raw f := by
  simp only [← faultOf_eq_some, faultOf_check, fault?, Option.or_eq_some_iff,
    Option.bind_eq_some_iff, (objects_elements raw).findSome?_eq_some,
    (objects_elements raw).findSome?_eq_none, (objects_positive raw).findSome?_eq_some,
    (objects_positive raw).findSome?_eq_none, objects_size.findSome?_eq_some,
    objects_size.findSome?_eq_none, not_not]
  constructor
  · rintro (⟨setting, first, rfl⟩ | ⟨lists, ⟨setting, first, rfl⟩ | ⟨numbers, items, sizes, wrong⟩⟩)
    · exact .notIterable first
    · exact .notPositive lists first
    · rcases wrong with ⟨v, first, rfl⟩ | ⟨_, none⟩
      · exact .blockSizeNotPositive lists numbers sizes first
      · split at none
        next empty =>
          cases none
          exact .noBlockSizes lists numbers (empty ▸ sizes)
        next => cases none
  · rintro (first | ⟨lists, first⟩ | ⟨lists, numbers, sizes, first⟩ | ⟨lists, numbers, sizes⟩)
    · exact .inl ⟨_, first, rfl⟩
    · exact .inr ⟨lists, .inl ⟨_, first, rfl⟩⟩
    · exact .inr ⟨lists, .inr ⟨numbers, _, sizes, .inl ⟨_, first, rfl⟩⟩⟩
    · exact .inr ⟨lists, .inr ⟨numbers, _, sizes, .inr ⟨by simp, rfl⟩⟩⟩

/-- Values are accepted if each is allowed for its setting. -/
theorem check_accepts_iff {raw : Raw} :
    (∃ s, check raw = .ok s) ↔ ∀ setting, Allowed setting (raw setting) := by
  simp only [← faultOf_eq_none, faultOf_check, fault?, Option.or_eq_none_iff,
    (objects_elements raw).findSome?_eq_none, (objects_positive raw).findSome?_eq_none,
    objects_size.findSome?_eq_none, not_not, Option.bind_eq_none_iff, ite_eq_right_iff, reduceCtorEq,
    imp_false]
  constructor
  · rintro ⟨lists, numbers, sizes⟩ setting
    have listed (s : Setting) (member : s ∈ Setting.lists) : ∃ items, (raw s).elements? = some items :=
      Option.ne_none_iff_exists'.mp (lists s member)
    cases setting with
    | blockSizes =>
      obtain ⟨items, taken⟩ := listed .blockSizes (by decide)
      exact ⟨items, taken, (sizes items taken).symm⟩
    | extensions | excludedDirs => exact listed _ (by decide)
    | sourceDir | reportPath | utilitiesDir => trivial
    | _ => exact numbers _ (by decide)
  · intro allowed
    refine ⟨fun s member => ?_, fun s member => ?_, fun items taken => ?_⟩
    · have given := allowed s
      simp only [Setting.lists, List.mem_cons, List.not_mem_nil, or_false] at member
      rcases member with rfl | rfl | rfl
      · obtain ⟨items, taken, _⟩ := given
        simp [taken]
      all_goals
        obtain ⟨items, taken⟩ := given
        simp [taken]
    · have given := allowed s
      simp only [Setting.numbers, List.mem_cons, List.not_mem_nil, or_false] at member
      rcases member with rfl | rfl | rfl | rfl | rfl | rfl | rfl <;> exact given
    · obtain ⟨others, again, counted⟩ := allowed .blockSizes
      obtain rfl := Option.some.inj (taken.symm.trans again)
      exact counted.symm

/-- Checked settings pass the check again, as they are. -/
theorem check_raw (s : Settings) : check s.raw = .ok s := by
  have listed (items : List Value) : elements (.list items) = .ok items := rfl
  simp only [check, raw, positive, listed, positive?_int, sizes_ints, bind, Except.bind]
  rw [dif_pos s.blockSizes_ne_nil]
  rfl

/-- Every default passes the check of its setting. -/
theorem allowed_default (setting : Setting) : Allowed setting setting.defaultValue :=
  check_accepts_iff.mp ⟨default, check_default⟩ setting

/-- The settings of a run are allowed. -/
theorem allowed_raw (s : Settings) (setting : Setting) : Allowed setting (s.raw setting) :=
  check_accepts_iff.mp ⟨s, check_raw s⟩ setting

/-! ## What accepted settings hold -/

def Raw.listed (raw : Raw) : Raw := fun setting =>
  if setting ∈ Setting.lists then .list ((raw setting).elements?.getD []) else raw setting

/-- Accepted settings hold the values that were given. -/
theorem raw_of_check {raw : Raw} {s : Settings} (checked : check raw = .ok s) :
    s.raw = raw.listed := by
  unfold check at checked
  obtain ⟨sizeValues, sizeList, checked⟩ := bind_eq_ok.mp checked
  obtain ⟨extensions, extensionList, checked⟩ := bind_eq_ok.mp checked
  obtain ⟨excludedDirs, excludedList, checked⟩ := bind_eq_ok.mp checked
  obtain ⟨minLines, minLinesCounts, checked⟩ := bind_eq_ok.mp checked
  obtain ⟨minTokens, minTokensCounts, checked⟩ := bind_eq_ok.mp checked
  obtain ⟨maxBlocks, maxBlocksCounts, checked⟩ := bind_eq_ok.mp checked
  obtain ⟨topCount, topCountCounts, checked⟩ := bind_eq_ok.mp checked
  obtain ⟨previewLength, previewCounts, checked⟩ := bind_eq_ok.mp checked
  obtain ⟨consoleLength, consoleCounts, checked⟩ := bind_eq_ok.mp checked
  obtain ⟨workers, workersCounts, checked⟩ := bind_eq_ok.mp checked
  obtain ⟨sizes, sizesCount, checked⟩ := bind_eq_ok.mp checked
  rw [elements_eq_ok] at sizeList extensionList excludedList
  rw [positive_eq_ok] at minLinesCounts minTokensCounts maxBlocksCounts topCountCounts
  rw [positive_eq_ok] at previewCounts consoleCounts workersCounts
  rw [sizes_eq_ok] at sizesCount
  split at checked
  · cases checked
    funext setting
    cases setting <;>
      simp [Settings.raw, Raw.listed, Setting.lists, sizeList, extensionList, excludedList,
        minLinesCounts, minTokensCounts, maxBlocksCounts, topCountCounts, previewCounts,
        consoleCounts, workersCounts, sizesCount]
  · cases checked

end Settings

end CloneScan
