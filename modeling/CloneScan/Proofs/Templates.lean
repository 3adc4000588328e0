import CloneScan.Proofs.Buckets
import CloneScan.Proofs.Findings
import CloneScan.Proofs.Footprint

/-! The template files of a report as one equation. Two loops collect: entries by their type, then the
sections of the types by their file. Both are collecting by a key, so what comes out can be told
without them: the files in the order in which a type first asks for them, and in each file the
sections of its types in the order in which these first appear. -/
namespace CloneScan

/-- Keys of keys stand in the same order, whether or not repeated keys are dropped before. -/
theorem Buckets.eraseDups_map_eraseDups [DecidableEq κ] [DecidableEq ν] (f : κ → ν) (keys : List κ) :
    (keys.eraseDups.map f).eraseDups = (keys.map f).eraseDups := by
  induction keys using List.reverseRecOn with
  | nil => rfl
  | append_singleton keys key ih =>
    rw [Buckets.eraseDups_concat, List.map_append, List.map_singleton, Buckets.eraseDups_concat]
    by_cases known : key ∈ keys
    · have again : f key ∈ keys.map f := List.mem_map_of_mem known
      rw [if_pos known, if_pos again, ih]
    · rw [if_neg known, List.map_append, List.map_singleton, Buckets.eraseDups_concat, ih]
      simp

namespace Utility

/-- The duplicates that a report lists are entries about these findings. -/
def Lists (report : Value) (findings : List Finding) : Prop :=
  ∃ duplicates entries, report.fieldD "duplicates" (.list []) = .ok duplicates ∧
    duplicates.elements = .ok entries ∧ List.Forall₂ Records entries findings

def kinds (findings : List Finding) : List String := (findings.map (·.type)).eraseDups

def ofKind (findings : List Finding) (kind : String) : List Finding :=
  findings.filter (·.type = kind)

/-- The stubs of the first findings, numbered from zero. -/
def firstStubs (findings : List Finding) : List Stub :=
  ((findings.take stubsPerType).zipIdx).map fun p => p.1.stub p.2

def sectionText (time : Timestamp) (kind : String) (findings : List Finding) : String :=
  header (.text kind) time ++ concat ((firstStubs findings).map (·.code))

theorem mem_kinds : kind ∈ kinds findings ↔ ∃ f ∈ findings, f.type = kind := by
  rw [kinds, List.mem_eraseDups, List.mem_map]

theorem mem_firstStubs (member : f ∈ findings.take stubsPerType) :
    ∃ index : Nat, f.stub index ∈ firstStubs findings := by
  obtain ⟨index, place⟩ := List.mem_iff_getElem?.mp member
  exact ⟨index, List.mem_map.mpr ⟨(f, index), List.mk_mem_zipIdx_iff_getElem?.mpr place, rfl⟩⟩

/-! ## Types -/

theorem sameKey_text (s t : String) : Value.sameKey (.text s) (.text t) = (s == t) := rfl

/-- An entry of a type. A missing type counts as unknown. -/
def HasType (entry : Value) (kind : String) : Prop :=
  entry.fieldD "type" (.text "unknown") = .ok (.text kind)

/-- Collecting entries by their type asks for nothing but their types. -/
theorem entriesByType_eq {pairs : List (Value × String)} (typed : ∀ p ∈ pairs, HasType p.1 p.2)
    (listed : report.fieldD "duplicates" (.list []) = .ok duplicates)
    (elements : duplicates.elements = .ok (pairs.map (·.1))) :
    entriesByType report = .ok ((pairs.map (·.2)).eraseDups.map fun kind =>
      (.text kind, (pairs.filter (·.2 = kind)).map (·.1))) := by
  have keyed : (pairs.map (·.1)).mapM (fun entry => do return (← entryType entry, entry)) =
      .ok (pairs.map fun p => (Value.text p.2, p.1)) := by
    rw [List.mapM_map]
    refine mapM_ok fun p member => ?_
    have type : p.1.fieldD "type" (.text "unknown") = .ok (.text p.2) := typed p member
    simp only [Function.comp_apply, entryType, type, ok_bind, Value.isKey]
    rfl
  have buckets : Buckets.ofListBy Value.sameKey (·.1) (pairs.map fun p => (Value.text p.2, p.1)) =
      (Buckets.ofList (·.2) pairs).map fun b =>
        (.text b.1, b.2.map fun p => (Value.text p.2, p.1)) :=
    Buckets.ofListBy_map sameKey_text (·.2) Prod.fst _ (fun _ => rfl) pairs
  rw [entriesByType, listed, ok_bind, elements, ok_bind, keyed, ok_bind, buckets, Buckets.ofList_eq]
  simp only [Buckets.filter_key, List.map_map, Function.comp_def]
  rfl

/-! ## Sections -/

def Recorded (pairs : List (Value × Finding)) : Prop := ∀ p ∈ pairs, Records p.1 p.2

theorem Recorded.entriesByType_eq (recorded : Recorded pairs)
    (listed : report.fieldD "duplicates" (.list []) = .ok duplicates)
    (elements : duplicates.elements = .ok (pairs.map (·.1))) :
    entriesByType report = .ok ((kinds (pairs.map (·.2))).map fun kind =>
      (.text kind, (pairs.filter (·.2.type = kind)).map (·.1))) := by
  have typed : ∀ p ∈ pairs.map fun p => (p.1, p.2.type), HasType p.1 p.2 :=
    List.forall_mem_map.mpr fun p member => (recorded p member).type
  rw [Utility.entriesByType_eq typed listed (by rw [elements, List.map_map]; rfl)]
  simp only [kinds, List.filter_map, List.map_map, Function.comp_def]

theorem Recorded.stubs_eq (recorded : Recorded pairs) :
    stubs stubsPerType (pairs.map (·.1)) = .ok (firstStubs (pairs.map (·.2))) := by
  rw [stubs, firstStubs, ← List.map_take, ← List.map_take, List.zipIdx_map, List.zipIdx_map,
    List.mapM_map, List.map_map]
  refine mapM_ok fun p member => ?_
  have inside : p.1 ∈ pairs := List.mem_of_mem_take (List.fst_mem_of_mem_zipIdx member)
  have few : p.2 < stubsPerType :=
    Nat.lt_of_lt_of_le (List.snd_lt_of_mem_zipIdx member) (List.length_take_le _ _)
  exact (recorded p.1 inside).ofEntry_ok few

theorem Recorded.typeSection_eq (recorded : Recorded pairs) (time : Timestamp) (kind : String) :
    typeSection time (.text kind) (pairs.map (·.1)) =
      .ok ⟨fileOf kind, sectionText time kind (pairs.map (·.2))⟩ := by
  have file : targetFile (.text kind) = .ok (fileOf kind) := rfl
  rw [typeSection, file, ok_bind, recorded.stubs_eq]
  rfl

/-! ## Files -/

def fileOfParts (bucket : String × List Template) : Template :=
  ⟨bucket.1, concat (bucket.2.map (·.content))⟩

theorem addSection_fileOfParts (part : Template) (buckets : List (String × List Template)) :
    addSection part (buckets.map fileOfParts) =
      (Buckets.add (· == ·) part.file part buckets).map fileOfParts := by
  induction buckets with
  | nil => simp [addSection, Buckets.add, fileOfParts, concat]
  | cons bucket rest ih =>
    rw [List.map_cons, addSection, Buckets.add]
    by_cases same : bucket.1 = part.file
    · simp [same, fileOfParts, concat]
    · simp [same, fileOfParts, ih]

/-- Adding sections one after the other collects them by their file. -/
theorem foldl_addSection (parts : List Template) :
    parts.foldl (fun files part => addSection part files) [] =
      (Buckets.ofList (·.file) parts).map fileOfParts := by
  induction parts using List.reverseRecOn with
  | nil => rfl
  | append_singleton parts part ih =>
    rw [List.foldl_append, ih, Buckets.ofList_concat, ← addSection_fileOfParts]
    rfl

/-- The files that come of a row of sections: in the order in which they are first asked for, and in
each of them its sections in the order of the row. -/
theorem foldl_addSection_map (part : α → Template) (xs : List α) :
    (xs.map part).foldl (fun files part => addSection part files) [] =
      (xs.map fun x => (part x).file).eraseDups.map fun file =>
        ⟨file, concat ((xs.filter fun x => (part x).file = file).map fun x => (part x).content)⟩ := by
  rw [foldl_addSection, Buckets.ofList_eq, List.map_map, List.map_map]
  refine List.map_congr_left fun file _ => ?_
  rw [Function.comp_apply, fileOfParts, Buckets.filter_key, List.filter_map, List.map_map]
  rfl

def sections (time : Timestamp) (findings : List Finding) : List Template :=
  (kinds findings).map fun kind =>
    ⟨fileOf kind, sectionText time kind (ofKind findings kind)⟩

theorem sections_eq (listed : Lists report findings) (time : Timestamp) :
    templates report time =
      .ok ((sections time findings).foldl (fun files part => addSection part files) []) := by
  obtain ⟨duplicates, entries, found, elements, records⟩ := listed
  obtain ⟨pairs, typed, rfl, rfl⟩ := exists_pairs records
  have recorded : Recorded pairs := typed
  have parts : (kinds (pairs.map (·.2))).mapM (fun kind =>
        typeSection time (.text kind) ((pairs.filter (·.2.type = kind)).map (·.1))) =
      .ok (sections time (pairs.map (·.2))) := by
    refine mapM_ok fun kind _ => ?_
    have chosen : Recorded (pairs.filter (·.2.type = kind)) := fun p member =>
      recorded p (List.mem_of_mem_filter member)
    simp only [chosen.typeSection_eq, ofKind, List.filter_map]
    rfl
  rw [templates, recorded.entriesByType_eq found elements, ok_bind, List.mapM_map]
  simp only [Function.comp_def]
  rw [parts]
  rfl

/-- The templates without the loops that collect them. -/
theorem templates_eq (listed : Lists report findings) (time : Timestamp) :
    templates report time = .ok ((findings.map fun f => fileOf f.type).eraseDups.map fun file =>
      ⟨file, concat (((kinds findings).filter (fileOf · = file)).map fun kind =>
        sectionText time kind (ofKind findings kind))⟩) := by
  have files : ((kinds findings).map fileOf).eraseDups =
      (findings.map fun f => fileOf f.type).eraseDups := by
    rw [kinds, Buckets.eraseDups_map_eraseDups, List.map_map]
    rfl
  rw [sections_eq listed, sections, foldl_addSection_map, files]

/-- No type is lost. The templates of a report are one file for each target of a type that occurs, in
the order in which the targets are first asked for. In a file stand the sections of all types with
that target, in the order in which the types first appear, and in a section the header of the type
and the stubs of its first five entries, numbered from zero. -/
theorem templates_sectioned (found : report.fieldD "duplicates" (.list []) = .ok duplicates)
    (elements : duplicates.elements = .ok entries)
    (records : List.Forall₂ Records entries findings) (time : Timestamp) :
    templates report time = .ok ((findings.map fun f => fileOf f.type).eraseDups.map fun file =>
      ⟨file, concat (((findings.map (·.type)).eraseDups.filter (fileOf · = file)).map fun kind =>
        header (.text kind) time ++
          concat ((((findings.filter (·.type = kind)).take 5).zipIdx.map fun p =>
            p.1.stub p.2).map (·.code)))⟩) ∧
    List.Forall₂ (fun entry f => ∀ index : Nat, index < 5 →
      Stub.ofEntry entry index = .ok (f.stub index)) entries findings :=
  ⟨templates_eq ⟨duplicates, entries, found, elements, records⟩ time,
    records.imp fun _ _ recorded _ => recorded.ofEntry_ok⟩

def onlyType (kind : String) : Finding := ⟨kind, "", .text "", []⟩

theorem records_onlyType (kind : String) :
    Records (.record [("type", .text kind)]) (onlyType kind) :=
  ⟨rfl, rfl, rfl, _, _, rfl, rfl, .nil⟩

/-- Types with a file of their own between types without, and one that is missing. -/
def interleaved : Value := .record [("duplicates", .list [
  .record [("type", .text "x")],
  .record [("type", .text "api-call")],
  .record [],
  .record [("type", .text "x")],
  .record [("type", .text "y")]])]

theorem templates_interleaved :
    templates interleaved Command.newYear = .ok [
      ⟨"misc-utils.ts", concat [
        header (.text "x") Command.newYear ++
          concat [((onlyType "x").stub 0).code, ((onlyType "x").stub 1).code],
        header (.text "unknown") Command.newYear ++ concat [((onlyType "unknown").stub 0).code],
        header (.text "y") Command.newYear ++ concat [((onlyType "y").stub 0).code]]⟩,
      ⟨"api-utils.ts", concat [
        header (.text "api-call") Command.newYear ++
          concat [((onlyType "api-call").stub 0).code]]⟩] := by
  have missing : Records (.record []) (onlyType "unknown") :=
    ⟨rfl, rfl, rfl, _, _, rfl, rfl, .nil⟩
  have records := List.Forall₂.cons (records_onlyType "x") <| .cons (records_onlyType "api-call") <|
    .cons missing <| .cons (records_onlyType "x") <| .cons (records_onlyType "y") .nil
  have listed : interleaved.fieldD "duplicates" (.list []) = .ok _ := rfl
  exact (templates_sectioned listed rfl records Command.newYear).1

end Utility

end CloneScan
