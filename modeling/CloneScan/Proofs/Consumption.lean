import CloneScan.Proofs.Footprint
import CloneScan.Proofs.Loading
import CloneScan.Proofs.Templates
import CloneScan.Utility.Suggestion

/-! What the suggestions make of a stored report. They look into a value of unknown shape and may find
that it lacks a field or holds one of the wrong kind. With an artifact they never do: its entries are
records whose fields have the kinds that are asked for, so stubs, templates and suggestions come out,
with the places and the types of the groups that the report was written from. -/
namespace CloneScan

namespace Report

/-- The types of code in a report, in the order in which they first appear. -/
def kinds (r : Report) : List String := (r.groups.map (·.label.category)).eraseDups

def ofKind (r : Report) (kind : String) : List Group := r.groups.filter (·.label.category = kind)

end Report

namespace Utility

variable {n : Nat} {g : Group} {dir kind : String}

def foundIn (g : Group) : String :=
  " * Found in:\n" ++ concat (g.blocks.map fun b => " *   - " ++ b.locationKey ++ "\n") ++ " */\n"

def nameOf (g : Group) (index : Nat) : String :=
  (functionNames.lookup g.label.category).getD "utilityFunction" ++ Numeral.text (index + 1)

def parametersOf (previewLength : Nat) (g : Group) : List String :=
  parameters (g.representative.preview previewLength) mostParameters

/-! ## Entries -/

/-- The fields that are asked for are there, so nothing takes their place. -/
theorem fieldD_duplicate (n : Nat) (g : Group) (absent : Value) :
    (Report.duplicate n g).fieldD "type" absent = .ok (.text g.label.category) ∧
    (Report.duplicate n g).fieldD "suggestion" absent = .ok (.text g.label.suggestion) ∧
    (Report.duplicate n g).fieldD "impact" absent = .ok (.int g.impact) ∧
    (Report.duplicate n g).fieldD "count" absent = .ok (.int g.count) ∧
    (Report.duplicate n g).fieldD "locations" absent = .ok (.list (g.blocks.map Report.place)) ∧
    (Report.duplicate n g).fieldD "code" absent = .ok (.text (g.representative.preview n)) := by
  simp [Report.duplicate, Value.fieldD, List.lookup_cons]

def findingOf (previewLength : Nat) (g : Group) : Finding where
  type := g.label.category
  code := g.representative.preview previewLength
  suggestion := .text g.label.suggestion
  places := g.blocks.map fun b => ⟨.text b.file, .int b.startLine⟩

theorem cites_place (b : Block) : Cites (Report.place b) ⟨.text b.file, .int b.startLine⟩ := by
  constructor <;> simp [Report.place, Value.part, List.lookup_cons]

theorem records_duplicate (n : Nat) (g : Group) : Records (Report.duplicate n g) (findingOf n g) := by
  have fields := fieldD_duplicate n g
  refine ⟨(fields _).1, (fields _).2.2.2.2.2, (fields _).2.1, _, _, (fields _).2.2.2.2.1, rfl, ?_⟩
  rw [findingOf, List.forall₂_map_left_iff, List.forall₂_map_right_iff, List.forall₂_same]
  exact fun b _ => cites_place b

theorem placeText_block (b : Block) :
    placeText (.text b.file) (.int b.startLine) = " *   - " ++ b.locationKey ++ "\n" := by
  simp [placeText, Value.display, Value.literal, Block.locationKey, String.append_assoc]

/-- The stub of a group names all its places. -/
theorem foundIn_stub (n : Nat) (g : Group) (index : Int) :
    (foundIn g).toList <:+: ((findingOf n g).stub index).code.toList := by
  refine ⟨("/**\n * " ++ g.label.suggestion ++ "\n" ++
    " * Auto-generated from duplicate code analysis\n").toList, ?_, ?_⟩
  rotate_left
  · simp only [Finding.stub, findingOf, List.map_map, Function.comp_def, placeText_block, comment,
      foundIn, String.toList_append, List.append_assoc]
    rfl

theorem duplicates_artifact (settings : Settings) (r : Report) :
    (r.artifact settings).fieldD "duplicates" (.list []) =
      .ok (.list (r.groups.map (Report.duplicate settings.previewLength.val))) := by
  simp [Report.artifact, Value.fieldD, List.lookup_cons]

/-- The artifact of a report lists what is known about its groups. -/
theorem lists_artifact (settings : Settings) (r : Report) :
    Lists (r.artifact settings) (r.groups.map (findingOf settings.previewLength.val)) := by
  refine ⟨_, _, duplicates_artifact settings r, rfl, ?_⟩
  rw [List.forall₂_map_left_iff, List.forall₂_map_right_iff, List.forall₂_same]
  exact fun g _ => records_duplicate _ g

/-! ## Types -/

theorem entriesByType_artifact (settings : Settings) (r : Report) :
    entriesByType (r.artifact settings) = .ok (r.kinds.map fun kind =>
      (.text kind, (r.ofKind kind).map (Report.duplicate settings.previewLength.val))) := by
  have recorded : Recorded (r.groups.map fun g =>
      (Report.duplicate settings.previewLength.val g, findingOf settings.previewLength.val g)) :=
    List.forall_mem_map.mpr fun g _ => records_duplicate _ g
  rw [recorded.entriesByType_eq (duplicates_artifact settings r) (by rw [List.map_map]; rfl)]
  simp only [Utility.kinds, Report.kinds, Report.ofKind, List.filter_map, List.map_map,
    Function.comp_def]
  rfl

/-- The first entries of a type are its first groups, with their numbers. -/
theorem numbered_duplicates (count n : Nat) (groups : List Group) :
    ((groups.map (Report.duplicate n)).take count).zipIdx =
      ((groups.take count).zipIdx).map fun p => (Report.duplicate n p.1, p.2) := by
  rw [← List.map_take, List.zipIdx_map]
  rfl

theorem lt_of_mem_numbered {count : Nat} {groups : List Group} {p : Group × Nat}
    (member : p ∈ (groups.take count).zipIdx) : p.2 < count := by
  have inside := List.snd_lt_of_mem_zipIdx member
  exact Nat.lt_of_lt_of_le inside (List.length_take_le _ _)

/-! ## Templates -/

/-- Templates can be made of every artifact, and the first groups of each type are in the file for
that type with all their places. -/
theorem templates_artifact (settings : Settings) (r : Report) (time : Timestamp) :
    ∃ files, templates (r.artifact settings) time = .ok files ∧
      ∀ kind ∈ r.kinds, ∀ g ∈ (r.ofKind kind).take stubsPerType,
        ∃ t ∈ files, t.file = fileOf kind ∧ (foundIn g).toList <:+: t.content.toList := by
  refine ⟨_, templates_eq (lists_artifact settings r) time, ?_⟩
  intro kind known g first
  have chosen : ofKind (r.groups.map (findingOf settings.previewLength.val)) kind =
      (r.ofKind kind).map (findingOf settings.previewLength.val) := by
    rw [ofKind, List.filter_map]
    rfl
  have occurs : kind ∈ kinds (r.groups.map (findingOf settings.previewLength.val)) := by
    rw [kinds, List.map_map]
    exact known
  refine ⟨_, List.mem_map_of_mem (a := fileOf kind) ?_, rfl, ?_⟩
  · obtain ⟨f, member, rfl⟩ := mem_kinds.mp occurs
    exact List.mem_eraseDups.mpr (List.mem_map_of_mem member)
  · have named : findingOf settings.previewLength.val g ∈
        (ofKind (r.groups.map (findingOf settings.previewLength.val)) kind).take stubsPerType := by
      rw [chosen, ← List.map_take]
      exact List.mem_map_of_mem first
    obtain ⟨index, member⟩ := mem_firstStubs named
    have code := infix_concat (List.mem_map_of_mem (f := (·.code)) member)
    have part : kind ∈ (kinds (r.groups.map (findingOf settings.previewLength.val))).filter
        (fileOf · = fileOf kind) := List.mem_filter.mpr ⟨occurs, by simp⟩
    refine ((foundIn_stub _ g index).trans code).trans
      (List.IsInfix.trans ?_ (infix_concat (List.mem_map_of_mem part)))
    rw [sectionText, String.toList_append]
    exact (List.suffix_append _ _).isInfix

/-! ## Suggestions -/

def groupText (previewLength : Nat) (g : Group) (index : Nat) : List String := [
  "Function: " ++ nameOf g index ++ "(" ++ ", ".intercalate (parametersOf previewLength g) ++ ")",
  "Impact: " ++ Numeral.text g.impact ++ " lines",
  "Occurrences: " ++ Numeral.text g.count,
  ""]

/-- The section of a type: its name in capitals, where its functions could go, its first groups. -/
def kindText (dir : String) (previewLength : Nat) (kind : String) (groups : List Group) :
    List String :=
  ["", "📁 " ++ .ofList (Text.upper kind.toList), singleRule,
    "Suggested location: " ++ (.ofList (dir.toList.reverse.dropWhile (· == '/')).reverse ++ "/" ++
      fileOf kind), ""] ++
  (((groups.take shownPerType).zipIdx).map fun p => groupText previewLength p.1 p.2).flatten

def templateText (dir : String) (t : Template) : List String := [
  "", "🗂️  " ++ t.file, singleRule, .ofList (leading shownOfTemplate t.content.toList), "...", "",
  "💾 Would create: " ++ (templatePath dir t.file).text, ""]

/-- The suggestions for a report: one section for each type, then the templates. -/
def reportText (dir : String) (settings : Settings) (r : Report) (files : List Template) : String :=
  "\n".intercalate <|
    ["", doubleRule, "🔧 REFACTORING SUGGESTIONS", doubleRule, ""] ++
    (r.kinds.map fun kind =>
      kindText dir settings.previewLength.val kind (r.ofKind kind)).flatten ++
    ["", doubleRule, "📝 UTILITY FILE TEMPLATES", doubleRule, ""] ++
    (files.map (templateText dir)).flatten

theorem functionLines_duplicate (n : Nat) (g : Group) {index : Nat} (few : index < stubsPerType) :
    (do functionLines (Report.duplicate n g) (← Stub.ofEntry (Report.duplicate n g) index)) =
      .ok (groupText n g index) := by
  rw [(records_duplicate n g).ofEntry_ok few, ok_bind, functionLines,
    (fieldD_duplicate n g _).2.2.1, ok_bind, (fieldD_duplicate n g _).2.2.2.1, ok_bind]
  rfl

theorem typeLines_duplicates (dir : String) (n : Nat) (kind : String) (groups : List Group) :
    typeLines (.text dir) (.text kind) (groups.map (Report.duplicate n)) =
      .ok (kindText dir n kind groups) := by
  have shown : ((groups.take shownPerType).zipIdx).mapM (fun p => do
      functionLines (Report.duplicate n p.1) (← Stub.ofEntry (Report.duplicate n p.1) p.2)) =
        .ok (((groups.take shownPerType).zipIdx).map fun p => groupText n p.1 p.2) := by
    refine mapM_ok fun p member => ?_
    have few : p.2 < stubsPerType := Nat.lt_trans (lt_of_mem_numbered member) (by decide)
    exact functionLines_duplicate n p.1 few
  rw [typeLines, numbered_duplicates, List.mapM_map]
  simp only [Function.comp_def]
  rw [shown]
  rfl

theorem suggestions_artifact (settings : Settings) (r : Report) (dir : String)
    (files : List Template) :
    suggestions (r.artifact settings) (.text dir) (.ok files) =
      .ok (reportText dir settings r files) := by
  have sections : r.kinds.mapM (fun kind => typeLines (.text dir) (.text kind)
        ((r.ofKind kind).map (Report.duplicate settings.previewLength.val))) =
      .ok (r.kinds.map fun kind =>
        kindText dir settings.previewLength.val kind (r.ofKind kind)) :=
    mapM_ok fun kind _ => typeLines_duplicates dir _ kind (r.ofKind kind)
  have shown : files.mapM (templateLines (.text dir)) = .ok (files.map (templateText dir)) :=
    mapM_ok fun t _ => rfl
  rw [suggestions, entriesByType_artifact, ok_bind, List.mapM_map]
  simp only [Function.comp_def]
  rw [sections, ok_bind, ok_bind, shown]
  rfl

end Utility

namespace Store

/-- Whoever reads a saved report can use it. It is loaded and summed up, templates are made of it, and
the file for a type names every place of the first groups of that type. The suggestions have one
section for each type, in the order in which the types first appear, whatever directory they are for
and whatever templates they show. -/
theorem saved_report_consumable {settings : Settings} {r : Report} {d : Disk} {path : Path}
    (saved : (save settings r d path).2 = none) (time : Timestamp) (dir : String) :
    load (save settings r d path).1 path = .ok (r.artifact settings) ∧
    (∃ lines, Report.summaryLines (r.artifact settings) = .ok lines) ∧
    (∃ files, Utility.templates (r.artifact settings) time = .ok files ∧
      (∀ kind ∈ r.kinds, ∀ g ∈ (r.ofKind kind).take 5,
        ∃ t ∈ files, t.file = Utility.fileOf kind ∧
          (Utility.foundIn g).toList <:+: t.content.toList) ∧
      Utility.suggestions (r.artifact settings) (.text dir) (.ok files) =
        .ok (Utility.reportText dir settings r files)) ∧
    (∀ given, Utility.suggestions (r.artifact settings) (.text dir) (.ok given) =
      .ok (Utility.reportText dir settings r given)) ∧
    (∀ kind, kind ∈ r.kinds ↔ ∃ g ∈ r.groups, g.label.category = kind) ∧
    r.kinds.Pairwise fun a b =>
      (r.groups.map (·.label.category)).idxOf a < (r.groups.map (·.label.category)).idxOf b := by
  obtain ⟨files, made, placed⟩ := Utility.templates_artifact settings r time
  have shown := Utility.suggestions_artifact settings r dir
  refine ⟨load_saved saved, ⟨_, Report.summaryLines_artifact settings r⟩,
    ⟨files, made, placed, shown files⟩, shown, ?_, Buckets.eraseDups_ordered _⟩
  intro kind
  rw [Report.kinds, List.mem_eraseDups, List.mem_map]

/-- The awkward report can be used where it has taken the place of another file. -/
theorem awkward_report_consumable :
    (save .default awkward occupied ⟨.relative, ["r.json"]⟩).2 = none ∧
    load (save .default awkward occupied ⟨.relative, ["r.json"]⟩).1 ⟨.relative, ["r.json"]⟩ =
      .ok (awkward.artifact .default) ∧
    awkward.kinds = ["\x08\x0c"] ∧
    ∃ files, Utility.templates (awkward.artifact .default) Command.newYear = .ok files ∧
      (∃ t ∈ files, t.file = "misc-utils.ts" ∧
        " * Found in:\n *   - a\"b\\c.ts:-3\n *   - \x7f:-3\n */\n".toList <:+: t.content.toList) ∧
      Utility.suggestions (awkward.artifact .default) (.text "lib/") (.ok files) =
        .ok (Utility.reportText "lib/" .default awkward files) := by
  have saved : (save .default awkward occupied ⟨.relative, ["r.json"]⟩).2 = none := by
    decide +kernel
  have kinds : awkward.kinds = ["\x08\x0c"] := by decide +kernel
  obtain ⟨loaded, _, ⟨files, made, placed, shown⟩, _⟩ :=
    saved_report_consumable saved Command.newYear "lib/"
  refine ⟨saved, loaded, kinds, files, made, ?_, shown⟩
  have first : awkward.groups.head (by decide) ∈ (awkward.ofKind "\x08\x0c").take 5 := by
    decide +kernel
  have lines : Utility.foundIn (awkward.groups.head (by decide)) =
      " * Found in:\n *   - a\"b\\c.ts:-3\n *   - \x7f:-3\n */\n" := by decide +kernel
  obtain ⟨t, member, file, places⟩ := placed "\x08\x0c" (by rw [kinds]; decide) _ first
  rw [lines] at places
  exact ⟨t, member, file, places⟩

end Store

end CloneScan
