import CloneScan.Proofs.Results
import CloneScan.Utility.Template
import Mathlib.Data.List.Induction

/-! What is read of a stored report. An entry may have any shape; it is an entry about a finding when
its fields have the kinds that are asked for, and of a missing field its default is taken. Stubs and
templates are functions of the findings alone. -/
namespace CloneScan

theorem Numeral.isWritable_of_lt {n : Nat} (small : n < 10) : Numeral.isWritable n = true := by
  have room (k : Nat) (filled : k ≠ 0) : n < Nat.pow 10 k :=
    Nat.lt_of_lt_of_le small (Nat.le_self_pow filled 10)
  exact decide_eq_true (room longest (by decide))

theorem Trait.mentions_iff {mark : String} {s : List Char} :
    mentions mark s = true ↔ mark.toList <:+: s := by
  have later (before : Option Char) :
      somewhereAfter (fun _ rest => opensWith mark rest) before s = true ↔ mark.toList <:+: s := by
    induction s generalizing before with
    | nil => simp [somewhereAfter, opensWith]
    | cons c s ih =>
      rw [somewhereAfter, Bool.or_eq_true, ih, List.infix_cons_iff]
      simp [opensWith]
  exact later none

namespace Utility

theorem toList_concat (parts : List String) :
    (concat parts).toList = (parts.map String.toList).flatten := by
  induction parts using List.reverseRecOn with
  | nil => rfl
  | append_singleton front last ih =>
    rw [concat] at ih
    simp [concat, ih]

theorem infix_concat {s : String} {parts : List String} (member : s ∈ parts) :
    s.toList <:+: (concat parts).toList := by
  rw [toList_concat]
  exact List.infix_of_mem_flatten (List.mem_map_of_mem member)

def fileOf (kind : String) : String := (targetFiles.lookup kind).getD "misc-utils.ts"

/-- A place of a finding. A file is a text and a line a number where a report was saved, but both
are written as they are. -/
structure Place where
  file : Value
  line : Value

structure Finding where
  type : String
  code : String
  suggestion : Value
  places : List Place

structure Cites (item : Value) (place : Place) : Prop where
  file : item.part "file" = .ok place.file
  line : item.part "startLine" = .ok place.line

/-- An entry about a finding. What is missing counts as empty, and a missing type as unknown. -/
structure Records (entry : Value) (f : Finding) : Prop where
  type : entry.fieldD "type" (.text "unknown") = .ok (.text f.type)
  code : entry.fieldD "code" (.text "") = .ok (.text f.code)
  suggestion : entry.fieldD "suggestion" (.text "") = .ok f.suggestion
  places : ∃ locations items, entry.fieldD "locations" (.list []) = .ok locations ∧
    locations.elements = .ok items ∧ List.Forall₂ Cites items f.places

def functionNameOf (kind : String) (index : Int) : String :=
  (functionNames.lookup kind).getD "utilityFunction" ++ Numeral.text (index + 1)

namespace Finding

def parameters (f : Finding) : List String := Utility.parameters f.code mostParameters

def isAsync (f : Finding) : Bool := Trait.mentions "async " f.code.toList

def stub (f : Finding) (index : Int) : Stub where
  functionName := functionNameOf f.type index
  parameters := f.parameters
  code := comment f.suggestion (f.places.map fun place => placeText place.file place.line) ++
    signature f.isAsync (functionNameOf f.type index) f.parameters ++ body f.code

end Finding

theorem functionName_eq (kind : String) (index : Int) :
    functionName (.text kind) index =
      if Numeral.isWritable (index + 1) then .ok (functionNameOf kind index)
      else .error (.write .numberTooLong) := by
  simp only [functionName, tableEntry, ok_bind, Value.writeIntFault?]
  by_cases written : Numeral.isWritable (index + 1) = true
  · simp [written]
    rfl
  · simp [written]
    rfl

theorem placeLine_of_cites (cited : Cites item place) :
    placeLine item = .ok (placeText place.file place.line) := by
  simp [placeLine, cited.file, cited.line, ok_bind, pure, Except.pure]

/-- Nothing but a number that is too long to be written keeps such an entry from its stub. -/
theorem Records.ofEntry_eq (records : Records entry f) (index : Int) :
    Stub.ofEntry entry index =
      if Numeral.isWritable (index + 1) then .ok (f.stub index)
      else .error (.write .numberTooLong) := by
  obtain ⟨type, code, suggestion, locations, items, listed, elements, cited⟩ := records
  have lines : items.mapM placeLine =
      .ok (f.places.map fun place => placeText place.file place.line) :=
    mapM_of_forall₂ (List.forall₂_map_right_iff.mpr (cited.imp fun _ _ => placeLine_of_cites))
  simp only [Stub.ofEntry, type, code, suggestion, listed, elements, ok_bind, functionName_eq, lines]
  by_cases written : Numeral.isWritable (index + 1) = true
  · simp [written]
    rfl
  · simp [written]
    rfl

/-- So few stubs are made that their numbers can be written. -/
theorem Records.ofEntry_ok (records : Records entry f) {index : Nat} (few : index < stubsPerType) :
    Stub.ofEntry entry index = .ok (f.stub index) := by
  have small : index + 1 < 10 := Nat.lt_of_lt_of_le (Nat.succ_lt_succ few) (by decide)
  rw [records.ofEntry_eq, ← Int.natCast_succ, if_pos (Numeral.isWritable_of_lt small)]

end Utility

end CloneScan
