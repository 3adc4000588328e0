import CloneScan.Proofs.Consumption

/-! What is shown of a report and what is written for it. Both go through the entries of each type, one
up to the third and the other up to the fifth, and both work out names, parameters and files on their
own. Where all types are texts and the templates can be made, the same sections stand behind both, so
every function that is shown is exported by the file for its type. -/
namespace CloneScan

theorem take_zipIdx (xs : List α) (count start : Nat) :
    (xs.take count).zipIdx start = (xs.zipIdx start).take count := by
  induction xs generalizing count start with
  | nil => simp
  | cons x xs ih =>
    cases count with
    | zero => rfl
    | succ count => rw [List.take_succ_cons, List.zipIdx_cons, List.zipIdx_cons, List.take_succ_cons, ih]

namespace Utility

variable {entry : Value} {entries : List Value} {kind : String}

/-! ## Stubs -/

def Stub.call (s : Stub) : String := s.functionName ++ "(" ++ ", ".intercalate s.parameters ++ ")"

/-- The code of a stub is a comment, the function that it exports and a body. -/
def Stub.Exports (s : Stub) : Prop :=
  ∃ suggestion places code modifier, (modifier = "function " ∨ modifier = "async function ") ∧
    s.code = comment suggestion places ++ ("export " ++ modifier ++ s.call ++ " \x7b\n") ++ body code

theorem Stub.exports_of_ofEntry {index : Int} {s : Stub} (made : Stub.ofEntry entry index = .ok s) :
    s.Exports := by
  unfold Stub.ofEntry at made
  obtain ⟨codeField, _, made⟩ := bind_eq_ok.mp made
  obtain ⟨type, _, made⟩ := bind_eq_ok.mp made
  obtain ⟨name, _, made⟩ := bind_eq_ok.mp made
  obtain ⟨code, _, made⟩ := bind_eq_ok.mp made
  obtain ⟨suggestion, _, made⟩ := bind_eq_ok.mp made
  obtain ⟨locations, _, made⟩ := bind_eq_ok.mp made
  obtain ⟨items, _, made⟩ := bind_eq_ok.mp made
  obtain ⟨places, _, made⟩ := bind_eq_ok.mp made
  cases made
  cases awaited : Trait.mentions "async " code.toList
  · exact ⟨suggestion, places, code, "function ", .inl rfl,
      by simp [signature, Stub.call, String.append_assoc]⟩
  · exact ⟨suggestion, places, code, "async function ", .inr rfl,
      by simp [signature, Stub.call, String.append_assoc]⟩

/-! ## Shown functions -/

structure Shown where
  stub : Stub
  impact : Value
  count : Value

def Shown.lines (f : Shown) : List String := [
  "Function: " ++ f.stub.call, "Impact: " ++ f.impact.display ++ " lines",
  "Occurrences: " ++ f.count.display, ""]

/-- The function that is named in a line. -/
def called? (line : String) : Option String :=
  ("Function: ".toList.isPrefixOf? line.toList).map .ofList

def callsIn (lines : List String) : List String := lines.filterMap called?

theorem called?_function (call : String) : called? ("Function: " ++ call) = some call := by
  have rest (mark text : List Char) : mark.isPrefixOf? (mark ++ text) = some text := by
    induction mark with
    | nil => rfl
    | cons c mark ih => simp [List.isPrefixOf?, ih]
  rw [called?, String.toList_append, rest, Option.map_some, String.ofList_toList]

theorem called?_other {line : String} (other : line.toList.head? ≠ some 'F') : called? line = none := by
  have mark : "Function: ".toList = 'F' :: "unction: ".toList := by decide
  rw [called?, mark]
  cases text : line.toList with
  | nil => rfl
  | cons c rest =>
    have apart : ¬ 'F' = c := by
      rintro rfl
      exact other (by rw [text]; rfl)
    simp [List.isPrefixOf?, apart]

theorem callsIn_append (ls ms : List String) : callsIn (ls ++ ms) = callsIn ls ++ callsIn ms :=
  List.filterMap_append

theorem callsIn_eq_nil {ls : List String} (others : ∀ l ∈ ls, l.toList.head? ≠ some 'F') :
    callsIn ls = [] :=
  List.filterMap_eq_nil_iff.mpr fun l member => called?_other (others l member)

theorem callsIn_lines (f : Shown) : callsIn f.lines = [f.stub.call] := by
  have others : callsIn ["Impact: " ++ f.impact.display ++ " lines",
      "Occurrences: " ++ f.count.display, ""] = [] := callsIn_eq_nil (by simp)
  rw [callsIn] at others
  rw [callsIn, Shown.lines, List.filterMap_cons_some (called?_function _), others]

theorem HasType.functionLines_ok (typed : HasType entry kind) (stub : Stub) :
    ∃ f : Shown, f.stub = stub ∧ functionLines entry stub = .ok f.lines := by
  cases entry with
  | record fields => exact ⟨⟨stub, _, _⟩, rfl, rfl⟩
  | _ => cases typed

/-! ## Sections -/

structure Section where
  kind : String
  stubs : List Stub
  shown : List Shown
  first : shown.map (·.stub) = stubs.take shownPerType
  exports : ∀ s ∈ stubs, s.Exports

namespace Section

def content (part : Section) (time : Timestamp) : String :=
  header (.text part.kind) time ++ concat (part.stubs.map (·.code))

def lines (part : Section) (dir : String) : List String :=
  ["", "📁 " ++ .ofList (Text.upper part.kind.toList), singleRule,
    "Suggested location: " ++ (.ofList (dir.toList.reverse.dropWhile (· == '/')).reverse ++ "/" ++
      fileOf part.kind), ""] ++
  (part.shown.map (·.lines)).flatten

theorem callsIn_lines (part : Section) (dir : String) :
    callsIn (part.lines dir) = (part.stubs.take shownPerType).map (·.call) := by
  have functions (fs : List Shown) :
      callsIn (fs.map (·.lines)).flatten = (fs.map (·.stub)).map (·.call) := by
    induction fs with
    | nil => rfl
    | cons f fs ih =>
      rw [List.map_cons, List.flatten_cons, callsIn_append, Utility.callsIn_lines, ih]
      rfl
  have heading (name place : String) :
      callsIn ["", "📁 " ++ name, singleRule, "Suggested location: " ++ place, ""] = [] := by
    have rule : singleRule.toList.head? ≠ some 'F' := by decide +kernel
    exact callsIn_eq_nil (by simp [rule])
  rw [lines, callsIn_append, heading, functions, part.first, List.nil_append]

end Section

/-- A section is all that is made of the entries of its type, where these are written and where they
are shown. -/
structure Section.Tells (part : Section) (time : Timestamp) (entries : List Value) : Prop where
  few : part.stubs.length = min stubsPerType entries.length
  written : typeSection time (.text part.kind) entries = .ok ⟨fileOf part.kind, part.content time⟩
  shown : ∀ dir, typeLines (.text dir) (.text part.kind) entries = .ok (part.lines dir)

/-- The stubs of the first entries beside these entries and their numbers. -/
theorem exists_numbered {written : List Stub} (made : stubs stubsPerType entries = .ok written) :
    ∃ pairs : List ((Value × Nat) × Stub),
      (∀ p ∈ pairs, p.1.1 ∈ entries ∧ Stub.ofEntry p.1.1 p.1.2 = .ok p.2) ∧
      pairs.map (·.1) = (entries.take stubsPerType).zipIdx ∧ pairs.map (·.2) = written := by
  obtain ⟨pairs, each, numbered, stubs⟩ := exists_pairs (forall₂_of_mapM made)
  refine ⟨pairs, fun p member => ⟨?_, each p member⟩, numbered, stubs⟩
  have entered : p.1 ∈ (entries.take stubsPerType).zipIdx := numbered ▸ List.mem_map_of_mem member
  exact List.mem_of_mem_take (List.fst_mem_of_mem_zipIdx entered)

/-- The functions that are shown are those of the first stubs that are written. -/
theorem exists_shown {written : List Stub} (typed : ∀ entry ∈ entries, HasType entry kind)
    (made : stubs stubsPerType entries = .ok written) :
    ∃ shown : List Shown, shown.map (·.stub) = written.take shownPerType ∧
      ((entries.take shownPerType).zipIdx).mapM
        (fun p => do functionLines p.1 (← Stub.ofEntry p.1 p.2)) = .ok (shown.map (·.lines)) := by
  obtain ⟨pairs, each, numbered, rfl⟩ := exists_numbered made
  have shows : ∀ p ∈ pairs.take shownPerType, ∃ f : Shown, f.stub = p.2 ∧
      (do functionLines p.1.1 (← Stub.ofEntry p.1.1 p.1.2)) = .ok f.lines := by
    intro p member
    obtain ⟨listed, stub⟩ := each p (List.mem_of_mem_take member)
    obtain ⟨f, same, lines⟩ := (typed _ listed).functionLines_ok p.2
    refine ⟨f, same, ?_⟩
    rw [stub, ok_bind, lines]
  obtain ⟨shown, told, firsts⟩ := exists_partners shows
  have fewer : min shownPerType stubsPerType = shownPerType := rfl
  have numberedFirsts : (entries.take shownPerType).zipIdx = shown.map (·.1.1) :=
    calc (entries.take shownPerType).zipIdx
      _ = ((entries.take stubsPerType).zipIdx).take shownPerType := by
        rw [← take_zipIdx, List.take_take, fewer]
      _ = (shown.map (·.1)).map (·.1) := by rw [← numbered, ← List.map_take, firsts]
      _ = shown.map (·.1.1) := List.map_map
  refine ⟨shown.map (·.2), ?_, ?_⟩
  · rw [← List.map_take, ← firsts, List.map_map, List.map_map]
    exact List.map_congr_left fun p member => (told p member).1
  · rw [numberedFirsts, List.mapM_map, List.map_map]
    exact mapM_ok fun p member => (told p member).2

/-- Once the section of a type can be written, its first functions can be shown. -/
theorem exists_section {time : Timestamp} {t : Template}
    (typed : ∀ entry ∈ entries, HasType entry kind)
    (made : typeSection time (.text kind) entries = .ok t) :
    ∃ part : Section, part.kind = kind ∧ part.Tells time entries := by
  rw [typeSection] at made
  obtain ⟨file, _, made⟩ := bind_eq_ok.mp made
  obtain ⟨written, stubbed, _⟩ := bind_eq_ok.mp made
  obtain ⟨shown, first, functions⟩ := exists_shown typed stubbed
  obtain ⟨pairs, each, numbered, rfl⟩ := exists_numbered stubbed
  have exports : ∀ s ∈ pairs.map (·.2), s.Exports :=
    List.forall_mem_map.mpr fun p member => Stub.exports_of_ofEntry (each p member).2
  refine ⟨⟨kind, pairs.map (·.2), shown, first, exports⟩, rfl, ?few, ?written, ?shown⟩
  case few =>
    have lengths := congrArg List.length numbered
    simpa using lengths
  case written =>
    have file : targetFile (.text kind) = .ok (fileOf kind) := rfl
    rw [typeSection, file, ok_bind, stubbed]
    rfl
  case shown =>
    intro dir
    simp only [typeLines, functions]
    rfl

/-! ## The whole report -/

def ListsTypes (report : Value) (types : List String) : Prop :=
  ∃ duplicates entries, report.fieldD "duplicates" (.list []) = .ok duplicates ∧
    duplicates.elements = .ok entries ∧ List.Forall₂ HasType entries types

variable {report : Value} {types : List String} {time : Timestamp} {files : List Template}

/-- The entries of each type with the section that tells of them. -/
theorem exists_told (listed : ListsTypes report types) (made : templates report time = .ok files) :
    ∃ told : List (Section × List Value), (∀ p ∈ told, p.1.Tells time p.2) ∧
      entriesByType report = .ok (told.map fun p => (.text p.1.kind, p.2)) ∧
      told.map (·.1.kind) = types.eraseDups ∧ ∀ p ∈ told, p.2.length = types.count p.1.kind := by
  obtain ⟨duplicates, entries, found, elements, related⟩ := listed
  obtain ⟨pairs, typed, rfl, rfl⟩ := exists_pairs related
  let members (kind : String) : List Value := (pairs.filter (·.2 = kind)).map (·.1)
  have byType : entriesByType report = .ok ((pairs.map (·.2)).eraseDups.map fun kind =>
    (.text kind, members kind)) := entriesByType_eq typed found elements
  have tells : ∀ kind ∈ (pairs.map (·.2)).eraseDups,
      ∃ part : Section, part.kind = kind ∧ part.Tells time (members kind) := by
    intro kind member
    rw [templates, byType, ok_bind, List.mapM_map] at made
    obtain ⟨written, each, _⟩ := bind_eq_ok.mp made
    obtain ⟨t, sectioned⟩ := exists_of_mapM each kind member
    refine exists_section (List.forall_mem_map.mpr fun p chosen => ?_) sectioned
    obtain ⟨inside, same⟩ := List.mem_filter.mp chosen
    exact of_decide_eq_true same ▸ typed p inside
  obtain ⟨parts, told, kinds⟩ := exists_partners tells
  refine ⟨parts.map fun p => (p.2, members p.1), ?_, ?_, ?_, ?_⟩
  · exact List.forall_mem_map.mpr fun p member => (told p member).2
  · rw [byType, ← kinds, List.map_map, List.map_map]
    refine congrArg Except.ok (List.map_congr_left fun p member => ?_)
    simp only [Function.comp_apply, (told p member).1]
  · rw [← kinds, List.map_map]
    exact List.map_congr_left fun p member => (told p member).1
  · refine List.forall_mem_map.mpr fun p member => ?_
    simp only [members, List.length_map, (told p member).1, List.count_eq_length_filter,
      List.filter_map]
    rfl

/-- The sections of a report, in the order in which their types first appear, are all that is written
and shown of its entries. -/
theorem exists_sections (listed : ListsTypes report types) (made : templates report time = .ok files) :
    ∃ parts : List Section, parts.map (·.kind) = types.eraseDups ∧
      (∀ part ∈ parts, part.stubs.length = min stubsPerType (types.count part.kind)) ∧
      files = (parts.map fun part => fileOf part.kind).eraseDups.map (fun file =>
        ⟨file, concat ((parts.filter (fileOf ·.kind = file)).map (·.content time))⟩) ∧
      ∀ dir, suggestions report (.text dir) (.ok files) = .ok ("\n".intercalate <|
        ["", doubleRule, "🔧 REFACTORING SUGGESTIONS", doubleRule, ""] ++
        (parts.map (·.lines dir)).flatten ++
        ["", doubleRule, "📝 UTILITY FILE TEMPLATES", doubleRule, ""] ++
        (files.map (templateText dir)).flatten) := by
  obtain ⟨told, tells, byType, kinds, counts⟩ := exists_told listed made
  refine ⟨told.map (·.1), ?kinds, ?few, ?files, fun dir => ?shown⟩
  case kinds => rw [List.map_map, ← kinds]; rfl
  case few =>
    refine List.forall_mem_map.mpr fun p member => ?_
    rw [(tells p member).few, counts p member]
  case files =>
    have sectioned : told.mapM (fun p => typeSection time (.text p.1.kind) p.2) =
        .ok ((told.map (·.1)).map fun part => ⟨fileOf part.kind, part.content time⟩) := by
      rw [List.map_map]
      exact mapM_ok fun p member => (tells p member).written
    rw [templates, byType, ok_bind, List.mapM_map] at made
    simp only [Function.comp_def] at made
    rw [sectioned, ok_bind] at made
    cases made
    exact foldl_addSection_map _ _
  case shown =>
    have sectioned : told.mapM (fun p => typeLines (.text dir) (.text p.1.kind) p.2) =
        .ok ((told.map (·.1)).map (·.lines dir)) := by
      rw [List.map_map]
      exact mapM_ok fun p member => (tells p member).shown dir
    have shown : files.mapM (templateLines (.text dir)) = .ok (files.map (templateText dir)) :=
      mapM_ok fun t _ => rfl
    rw [suggestions, byType, ok_bind, List.mapM_map]
    simp only [Function.comp_def]
    rw [sectioned, ok_bind, ok_bind, shown]
    rfl

theorem Section.code_infix_content {part : Section} {s : Stub} (member : s ∈ part.stubs)
    (time : Timestamp) : s.code.toList <:+: (part.content time).toList := by
  have code := infix_concat (List.mem_map_of_mem (f := (·.code)) member)
  rw [content, String.toList_append]
  exact code.trans (List.suffix_append _ _).isInfix

/-- The stubs of the functions that are shown come first. -/
theorem Section.firsts_prefix_content (part : Section) (time : Timestamp) :
    (header (.text part.kind) time ++ concat ((part.stubs.take shownPerType).map (·.code))).toList <+:
      (part.content time).toList := by
  obtain ⟨others, whole⟩ := (List.take_prefix shownPerType part.stubs).map (·.code)
  have codes : (concat (part.stubs.map (·.code))).toList =
      (concat ((part.stubs.take shownPerType).map (·.code))).toList ++ (concat others).toList := by
    rw [← whole, toList_concat, toList_concat, toList_concat, List.map_append, List.flatten_append]
  rw [content, String.toList_append, String.toList_append, codes, ← List.append_assoc]
  exact List.prefix_append _ _

/-- What is shown is what is written. The sections of a report have one type each, in the order in
which the types first appear. Each shows the first three of its at most five stubs, and these stand
at the beginning of what is written for the type; a file holds the sections of all types that it is
for. So every function that is named in a section is exported, with these parameters, by a stub in the
file for its type. -/
theorem shown_functions_written (listed : ListsTypes report types)
    (made : templates report time = .ok files) (dir : String) :
    ∃ parts : List Section, parts.map (·.kind) = types.eraseDups ∧
      suggestions report (.text dir) (.ok files) = .ok ("\n".intercalate <|
        ["", doubleRule, "🔧 REFACTORING SUGGESTIONS", doubleRule, ""] ++
        (parts.map (·.lines dir)).flatten ++
        ["", doubleRule, "📝 UTILITY FILE TEMPLATES", doubleRule, ""] ++
        (files.map (templateText dir)).flatten) ∧
      files = (parts.map fun part => fileOf part.kind).eraseDups.map (fun file =>
        ⟨file, concat ((parts.filter (fileOf ·.kind = file)).map (·.content time))⟩) ∧
      ∀ part ∈ parts,
        part.stubs.length = min 5 (types.count part.kind) ∧
        callsIn (part.lines dir) = (part.stubs.take 3).map (·.call) ∧
        (header (.text part.kind) time ++ concat ((part.stubs.take 3).map (·.code))).toList <+:
          (part.content time).toList ∧
        ∀ call ∈ callsIn (part.lines dir), ∃ t ∈ files, t.file = fileOf part.kind ∧
          ∃ s ∈ part.stubs, s.call = call ∧ s.Exports ∧ s.code.toList <:+: t.content.toList := by
  obtain ⟨parts, kinds, few, rfl, shown⟩ := exists_sections listed made
  refine ⟨parts, kinds, shown dir, rfl, fun part member => ⟨few part member, part.callsIn_lines dir,
    part.firsts_prefix_content time, fun call named => ?_⟩⟩
  rw [part.callsIn_lines] at named
  obtain ⟨s, first, rfl⟩ := List.mem_map.mp named
  have stub : s ∈ part.stubs := List.mem_of_mem_take first
  have asked : fileOf part.kind ∈ (parts.map fun part => fileOf part.kind).eraseDups :=
    List.mem_eraseDups.mpr (List.mem_map_of_mem member)
  have inside : part ∈ parts.filter (fileOf ·.kind = fileOf part.kind) :=
    List.mem_filter.mpr ⟨member, by simp⟩
  refine ⟨_, List.mem_map_of_mem asked, rfl, s, stub, rfl, part.exports s stub, ?_⟩
  exact (Section.code_infix_content stub time).trans (infix_concat (List.mem_map_of_mem inside))

/-- An entry with code that names one variable. -/
def logEntry : Value := .record [("type", .text "logging"), ("code", .text "print(message)")]

/-- Six entries of one type between two types that share a file. The sixth one has no usable code, but it
is neither written nor shown. -/
def crowded : Value := .record [("duplicates", .list [
  .record [("type", .text "x")], logEntry, logEntry, .record [("type", .text "y")], logEntry, logEntry,
  logEntry, .record [("type", .text "logging"), ("code", .int 5)]])]

theorem listsTypes_crowded :
    ListsTypes crowded ["x", "logging", "logging", "y", "logging", "logging", "logging", "logging"] :=
  ⟨_, _, rfl, rfl, .cons rfl <| .cons rfl <| .cons rfl <| .cons rfl <| .cons rfl <| .cons rfl <|
    .cons rfl <| .cons rfl .nil⟩

theorem crowded_functions_written :
    ∃ files, templates crowded Command.newYear = .ok files ∧ ∃ parts : List Section,
      parts.map (·.kind) = ["x", "logging", "y"] ∧ parts.map (·.stubs.length) = [1, 5, 1] ∧
      ∀ part ∈ parts, ∀ call ∈ callsIn (part.lines "lib"), ∃ t ∈ files, t.file = fileOf part.kind ∧
        ∃ s ∈ part.stubs, s.call = call ∧ s.Exports ∧ s.code.toList <:+: t.content.toList := by
  have fine : (templates crowded Command.newYear).isOk = true := by decide +kernel
  cases made : templates crowded Command.newYear with
  | error f =>
    rw [made] at fine
    cases fine
  | ok files =>
    obtain ⟨parts, kinds, _, _, each⟩ := shown_functions_written listsTypes_crowded made "lib"
    refine ⟨files, rfl, parts, kinds, ?_, fun part member => (each part member).2.2.2⟩
    have lengths : parts.map (·.stubs.length) = (parts.map (·.kind)).map fun kind => min 5
        (["x", "logging", "logging", "y", "logging", "logging", "logging", "logging"].count kind) := by
      rw [List.map_map]
      exact List.map_congr_left fun part member => (each part member).1
    rw [lengths, kinds]
    decide

end Utility

end CloneScan
