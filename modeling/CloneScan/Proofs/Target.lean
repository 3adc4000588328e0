import CloneScan.Proofs.Creation
import CloneScan.Proofs.Exports
import CloneScan.Utility.Suggestion
import Mathlib.Data.List.DropRight

/-! Where a utility file goes. The location that is suggested for it is put together as a text, and the
place it is written to as a path. The two agree as paths for every directory but two: the empty text
and two slashes, of which the text keeps nothing but the one slash in front of the file. -/
namespace CloneScan

namespace Path

variable {s t : List Char}

/-- The anchor of a text that starts with so many slashes. -/
def anchorBehind : Nat → Anchor
  | 0 => .relative
  | 2 => .doubleRoot
  | _ => .root

theorem anchorOf_eq (s : List Char) : anchorOf s = anchorBehind (s.takeWhile (· == '/')).length := by
  rcases s with _ | ⟨a, _ | ⟨b, _ | ⟨c, rest⟩⟩⟩
  · rfl
  · by_cases first : a = '/' <;> simp [anchorOf, anchorBehind, first]
  · by_cases first : a = '/' <;> by_cases second : b = '/' <;>
      simp [anchorOf, anchorBehind, first, second]
  · by_cases first : a = '/' <;> by_cases second : b = '/' <;> by_cases third : c = '/' <;>
      simp [anchorOf, anchorBehind, first, second, third]

/-- Once there is something else than a slash, nothing behind it changes the anchor. -/
theorem anchorOf_append {c : Char} (member : c ∈ s) (other : c ≠ '/') (t : List Char) :
    anchorOf (s ++ t) = anchorOf s := by
  have ends : (s.takeWhile (· == '/')).length ≠ s.length := by
    intro same
    have whole := (List.takeWhile_prefix (· == '/')).eq_of_length same
    have slash := List.takeWhile_eq_self_iff.mp whole c member
    exact other (beq_iff_eq.mp slash)
  rw [anchorOf_eq, anchorOf_eq, List.takeWhile_append, if_neg ends]

theorem partsOf_append (s t : List Char) : partsOf (s ++ '/' :: t) = partsOf s ++ partsOf t := by
  have pieces : (s ++ '/' :: t).splitOn '/' = s.splitOn '/' ++ t.splitOn '/' :=
    List.splitOnP_append_cons s t (beq_self_eq_true '/')
  rw [partsOf, pieces, List.filter_append, List.map_append]
  rfl

theorem partsOf_slashes (slashes : ∀ c ∈ t, c = '/') : partsOf t = [] := by
  induction t with
  | nil => rfl
  | cons c t ih =>
    obtain ⟨rfl, rest⟩ := List.forall_mem_cons.mp slashes
    exact (partsOf_append [] t).trans (ih rest)

/-- Slashes at the end name nothing. -/
theorem partsOf_append_slashes (slashes : ∀ c ∈ t, c = '/') : partsOf (s ++ t) = partsOf s := by
  cases t with
  | nil => rw [List.append_nil]
  | cons c t =>
    obtain ⟨rfl, rest⟩ := List.forall_mem_cons.mp slashes
    rw [partsOf_append, partsOf_slashes rest, List.append_nil]

def unslashed (s : List Char) : List Char := s.rdropWhile (· == '/')

theorem exists_slashes (s : List Char) : ∃ t, unslashed s ++ t = s ∧ ∀ c ∈ t, c = '/' := by
  refine ⟨_, List.rdropWhile_append_rtakeWhile .., fun c member => ?_⟩
  have slash := List.mem_rtakeWhile_imp member
  exact beq_iff_eq.mp slash

theorem unslashed_eq_nil_iff : unslashed s = [] ↔ ∀ c ∈ s, c = '/' := by
  simp [unslashed, List.rdropWhile_eq_nil_iff]

theorem getLast_unslashed (filled : unslashed s ≠ []) : (unslashed s).getLast filled ≠ '/' := by
  intro slash
  exact List.rdropWhile_last_not _ _ filled (beq_iff_eq.mpr slash)

/-- The anchor of a single slash in front of a name. -/
theorem anchorOf_slash_name {file : String} (valid : Node.IsName file) :
    anchorOf ('/' :: file.toList) = .root := by
  have one : ('/' :: file.toList).takeWhile (· == '/') = ['/'] := by
    cases spelled : file.toList with
    | nil => rfl
    | cons first rest =>
      have other : first ≠ '/' := by
        rintro rfl
        exact valid.noSlash (by simp [spelled])
      simp [other]
  rw [anchorOf_eq, one]
  rfl

/-- The text of a directory without the slashes at its end, and a file below it. -/
theorem ofText_below {file : String} (valid : Node.IsName file) (dir : String) :
    ofText (.ofList (unslashed dir.toList) ++ "/" ++ file) =
      ⟨if unslashed dir.toList = [] then .root else anchorOf dir.toList,
        partsOf dir.toList ++ [file]⟩ := by
  obtain ⟨slashes, whole, only⟩ := exists_slashes dir.toList
  have single : partsOf file.toList = [file] := congrArg Path.parts (ofText_name valid)
  have parts : partsOf dir.toList = partsOf (unslashed dir.toList) := by
    conv_lhs => rw [← whole]
    exact partsOf_append_slashes only
  have spelled : (String.ofList (unslashed dir.toList) ++ "/" ++ file).toList =
      unslashed dir.toList ++ '/' :: file.toList := by simp
  rw [ofText, spelled, partsOf_append, single, parts]
  refine congrArg (Path.mk · _) ?_
  split
  next empty =>
    rw [empty]
    exact anchorOf_slash_name valid
  next filled =>
    have last := List.getLast_mem filled
    have front := anchorOf_append last (getLast_unslashed filled) slashes
    rw [whole] at front
    rw [front, anchorOf_append last (getLast_unslashed filled)]

theorem anchorBehind_eq_root_iff {n : Nat} : anchorBehind n = .root ↔ n ≠ 0 ∧ n ≠ 2 := by
  rcases n with _ | _ | _ | n <;> simp [anchorBehind]

/-- Of the directories that are nothing but slashes, all but two are the root. -/
theorem anchorOf_slashes_eq_root_iff {dir : String} (only : ∀ c ∈ dir.toList, c = '/') :
    anchorOf dir.toList = .root ↔ dir ≠ "" ∧ dir ≠ "//" := by
  have row : dir.toList = List.replicate dir.toList.length '/' :=
    List.eq_replicate_iff.mpr ⟨rfl, only⟩
  have long : dir.toList.takeWhile (· == '/') = dir.toList :=
    List.takeWhile_eq_self_iff.mpr fun c member => beq_iff_eq.mpr (only c member)
  have spelled (n : Nat) : dir.toList.length = n ↔ dir = .ofList (List.replicate n '/') := by
    constructor
    · rintro rfl
      rw [← row, String.ofList_toList]
    · rintro rfl
      simp
  rw [anchorOf_eq, long, anchorBehind_eq_root_iff]
  exact and_congr (not_congr (spelled 0)) (not_congr (spelled 2))

/-- The two ways to name a file below a directory, as a text and as a path. -/
theorem ofText_below_eq_join_iff {file : String} (valid : Node.IsName file) (dir : String) :
    ofText (.ofList (unslashed dir.toList) ++ "/" ++ file) = (ofText dir).join (ofText file) ↔
      dir ≠ "" ∧ dir ≠ "//" := by
  have joined : (ofText dir).join (ofText file) =
      ⟨anchorOf dir.toList, partsOf dir.toList ++ [file]⟩ := by
    rw [ofText_name valid]
    rfl
  rw [ofText_below valid, joined, Path.mk.injEq, and_iff_left rfl]
  by_cases empty : unslashed dir.toList = []
  · rw [if_pos empty, eq_comm]
    exact anchorOf_slashes_eq_root_iff (unslashed_eq_nil_iff.mp empty)
  · rw [if_neg empty]
    refine iff_of_true rfl ⟨?_, ?_⟩
    · rintro rfl
      exact empty rfl
    · rintro rfl
      exact empty rfl

end Path

namespace Utility

/-! ## Where templates are announced and written -/

theorem isName_fileOf (kind : String) : Node.IsName (fileOf kind) := by
  have names : ∀ file ∈ "misc-utils.ts" :: targetFiles.map (·.2),
      file ≠ "" ∧ (file ≠ "." ∧ file ≠ "..") ∧ '/' ∉ file.toList ∧ '\x00' ∉ file.toList := by decide
  obtain ⟨filled, apart, noSlash, noNull⟩ := names _ (lookup_getD_mem targetFiles kind "misc-utils.ts")
  exact ⟨filled, apart, noSlash, noNull⟩

namespace Creation

variable {c : Creation} {dir : Path} {templates : List Template}

structure Answers (dir : Path) (templates : List Template) (c : Creation) : Prop where
  begins : c.results.map (·.1) <+: templates.map (target dir)
  ended : c.fault = none → c.results.map (·.1) = templates.map (target dir)

theorem Answers.refused (dir : Path) (templates : List Template) (d : Disk) (f : FileFault)
    (made : Bool) : Answers dir templates ⟨d, [], some f, made⟩ where
  begins := List.nil_prefix
  ended := nofun

theorem Answers.prepend (rest : Answers dir templates c) (t : Template) (status : Status) :
    Answers dir (t :: templates) (c.prepend (target dir t, status)) where
  begins := (List.prefix_cons_inj _).mpr rest.begins
  ended finished := congrArg (target dir t :: ·) (rest.ended finished)

theorem answers_place (dryRun : Bool) (dir : Path) (d : Disk) (templates : List Template) :
    Answers dir templates (place dryRun dir d templates) := by
  induction templates generalizing d with
  | nil => exact ⟨List.prefix_rfl, fun _ => rfl⟩
  | cons t rest ih =>
    rw [place_cons]
    split
    · exact .refused ..
    · exact (ih d).prepend t _
    · split
      · exact (ih d).prepend t _
      · split
        · exact (ih _).prepend t _
        · exact .refused ..

theorem answers_run (dryRun : Bool) (dir : Path) (d : Disk) (templates : List Template) :
    Answers dir templates (run dryRun dir d templates) := by
  have placed (d : Disk) := answers_place dryRun dir d templates
  rw [run]
  split
  · exact .refused ..
  · split
    · exact placed d
    · split
      · exact .refused ..
      · exact ⟨(placed _).begins, (placed _).ended⟩

end Creation

/-- The suggested location of a type is the path at which the template of its file is announced and
written, unless the directory is the empty text or two slashes. -/
theorem suggested_location_iff (kind dir : String) :
    ∃ suggested, targetPath (.text kind) (.text dir) = .ok suggested ∧
      (Path.ofText suggested = templatePath dir (fileOf kind) ↔ dir ≠ "" ∧ dir ≠ "//") ∧
      (∀ content, ∃ shown, templateLines (.text dir) ⟨fileOf kind, content⟩ =
        .ok (shown ++ ["💾 Would create: " ++ (templatePath dir (fileOf kind)).text, ""])) ∧
      ∀ dryRun d templates,
        ((Creation.run dryRun (.ofText dir) d templates).results.map (·.1) <+:
          templates.map fun t => templatePath dir t.file) ∧
        ((Creation.run dryRun (.ofText dir) d templates).fault = none →
          (Creation.run dryRun (.ofText dir) d templates).results.map (·.1) =
            templates.map fun t => templatePath dir t.file) := by
  refine ⟨_, rfl, Path.ofText_below_eq_join_iff (isName_fileOf kind) dir, ?_, ?_⟩
  · intro content
    exact ⟨["", "🗂️  " ++ fileOf kind, singleRule,
      .ofList (leading shownOfTemplate content.toList), "...", ""], rfl⟩
  · intro dryRun d templates
    have answers := Creation.answers_run dryRun (.ofText dir) d templates
    exact ⟨answers.begins, answers.ended⟩

/-- Without a directory the file is suggested at the root, but announced and written beside whatever is
in the working directory. -/
theorem empty_directory_suggested_at_root :
    targetPath (.text "x") (.text "") = .ok "/misc-utils.ts" ∧
    (Path.ofText "/misc-utils.ts").text = "/misc-utils.ts" ∧
    templatePath "" (fileOf "x") = ⟨.relative, ["misc-utils.ts"]⟩ ∧
    (templatePath "" (fileOf "x")).text = "misc-utils.ts" ∧
    (Creation.run false (.ofText "") ⟨.directory [], "", []⟩ [⟨fileOf "x", "y"⟩]).results =
      [(⟨.relative, ["misc-utils.ts"]⟩, .created)] ∧
    Path.ofText "/misc-utils.ts" ≠ templatePath "" (fileOf "x") := by
  decide +kernel

end Utility

end CloneScan
