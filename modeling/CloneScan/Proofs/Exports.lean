import CloneScan.Proofs.Stubs
import CloneScan.Proofs.Templates
import Mathlib.Data.List.Lattice
import Mathlib.Data.List.Pairwise

/-! The functions that a template file exports. Their names are read off the words of the file outside its
comments. Numbers keep the functions of one type apart, and files keep types apart. Types without a
file of their own share one, and there the numbers start again with each type. -/
namespace CloneScan

namespace Utility

open Text Source

/-! ## Names in a text -/

/-- The function that is exported where these words start. -/
def exportedName? : List String → Option String
  | "export" :: "function" :: w :: _ => some (.ofList (w.toList.takeWhile (· != '(')))
  | "export" :: "async" :: "function" :: w :: _ =>
    some (.ofList (w.toList.takeWhile (· != '(')))
  | _ => none

/-- The functions exported in a row of words. -/
def exportsIn (ws : List (List Char)) : List String :=
  (ws.map String.ofList).tails.filterMap exportedName?

/-- The functions exported in a text, comments apart. -/
def exportedNames (code : String) : List String := exportsIn (liveWords code.toList)

theorem exportsIn_cons (w : List Char) (ws : List (List Char)) :
    exportsIn (w :: ws) =
      (exportedName? (.ofList w :: ws.map String.ofList)).toList ++ exportsIn ws := by
  simp only [exportsIn, List.map_cons, List.tails_cons, List.filterMap_cons]
  cases exportedName? (.ofList w :: ws.map String.ofList) <;> rfl

theorem exportedName?_of_ne (other : w ≠ "export") (ws : List String) :
    exportedName? (w :: ws) = none := by
  unfold exportedName?
  split <;> simp_all

/-- Words other than the keyword export nothing. -/
theorem exportsIn_append (absent : ∀ w ∈ ws, w ≠ "export".toList) (vs : List (List Char)) :
    exportsIn (ws ++ vs) = exportsIn vs := by
  induction ws with
  | nil => rfl
  | cons w ws ih =>
    have parts := List.forall_mem_cons.mp absent
    have other : String.ofList w ≠ "export" := fun same => parts.1 (by rw [← same, String.toList_ofList])
    rw [List.cons_append, exportsIn_cons, exportedName?_of_ne other, ih parts.2]
    rfl

theorem argumentWords_first (s : List Char) (ps : List (List Char)) :
    ∃ t ws, argumentWords s ps = (s ++ t) :: ws := by
  fun_cases argumentWords s ps with
  | case1 => exact ⟨_, _, rfl⟩
  | case2 a => exact ⟨a ++ [')'], [], by simp⟩
  | case3 a b rest => exact ⟨a ++ [','], argumentWords [] (b :: rest), by simp⟩

/-- A stub exports one function, and it is called as the stub is. -/
theorem exportsIn_stubWords (f : Finding) (index : Int) (vs : List (List Char)) :
    exportsIn (f.stubWords index ++ vs) = functionNameOf f.type index :: exportsIn vs := by
  have absent : ∀ w ∈ (keywords f.isAsync).tail ++ (argumentWords
      ((functionNameOf f.type index).toList ++ ['(']) (f.parameters.map String.toList) ++ [['\x7b']] ++
        statementWords ++ [['\x7d']]), w ≠ "export".toList := by
    rintro w member rfl
    simp only [List.mem_append] at member
    rcases member with keyword | ((argument | brace) | statement) | brace
    · cases h : f.isAsync <;> simp [keywords, h] at keyword
    · simpa using marked_argumentWords _ _ _ argument
    · simp at brace
    · simp [statementWords] at statement
    · simp at brace
  have rest := exportsIn_append absent vs
  obtain ⟨t, ws, first⟩ := argumentWords_first ((functionNameOf f.type index).toList ++ ['('])
    (f.parameters.map String.toList)
  have name : ((functionNameOf f.type index).toList ++ '(' :: t).takeWhile (· != '(') =
      (functionNameOf f.type index).toList := by
    rw [List.takeWhile_append_of_pos]
    · simp
    · intro c member
      have other : c ≠ '(' := by
        rintro rfl
        exact (isToken_functionNameOf f.type index).absent (by decide) member
      simpa using other
  rw [first] at rest
  rw [Finding.stubWords, signatureWords, first]
  cases h : f.isAsync
  all_goals
    simp [keywords, h] at rest ⊢
    rw [exportsIn_cons, rest]
    simp [exportedName?, name]

/-! ## Names in a template -/

theorem isToken_digits (width n : Nat) : IsToken (Calendar.digits width n).toList := by
  rw [Calendar.digits, String.toList_ofList, Numeral.padded]
  refine IsToken.append ?_ (isToken_ofNat n)
  intro c member
  rw [List.eq_of_mem_replicate member]
  decide

theorem star_not_mem_text (time : Timestamp) : '*' ∉ time.text.toList := by
  have digits (width n : Nat) : '*' ∉ (Calendar.digits width n).toList :=
    (isToken_digits width n).absent (by decide)
  have fraction : '*' ∉ (if time.clock.microsecond = 0 then ""
      else "." ++ Calendar.digits 6 time.clock.microsecond).toList := by
    split <;> simp [digits]
  simp [Timestamp.text, Timestamp.textWith, Date.text, Clock.text, digits, fraction]

/-- The header of a type gives no words. -/
theorem liveWords_header {kind : String} (unclosed : ¬ ['*', '/'] <:+: kind.toList)
    (time : Timestamp) (t : List Char) :
    liveWords ((header (.text kind) time).toList ++ t) = liveWords t := by
  have clock : ¬ ['*', '/'] <:+: time.text.toList := fun mark =>
    star_not_mem_text time (mark.subset (by simp))
  have generated := enclosed_newline.around (p := (" Utilities\n" ++
      " * Auto-generated utility functions to reduce code duplication\n" ++ " * Generated: ").toList)
    (by simp) (by simp [pair_infix_cons]) (by simp) clock
  have start : ¬ ['*', '/'] <:+: "*\n * ".toList := by simp [pair_infix_cons]
  have enclosed := generated.around (by simp) start (by simp) unclosed
  have whole := liveWords_block_comment enclosed ('\n' :: t)
  rw [liveWords_blank_line] at whole
  simpa [header, Value.display] using whole

theorem exportsIn_stubs {pairs : List (Finding × Nat)} (harmless : ∀ p ∈ pairs, p.1.Harmless)
    (t : List Char) :
    exportsIn (liveWords ((concat (pairs.map fun p => (p.1.stub p.2).code)).toList ++ t)) =
      pairs.map (fun p => (p.1.stub p.2).functionName) ++ exportsIn (liveWords t) := by
  induction pairs with
  | nil => rfl
  | cons p pairs ih =>
    have parts := List.forall_mem_cons.mp harmless
    simp only [toList_concat, List.map_cons, List.flatten_cons, List.append_assoc] at ih ⊢
    rw [Finding.liveWords_stub parts.1, exportsIn_stubWords, ih parts.2]
    rfl

/-- A section exports the functions that its stubs are called after. -/
theorem exportsIn_section {kind : String} (unclosed : ¬ ['*', '/'] <:+: kind.toList)
    (harmless : ∀ f ∈ findings, f.Harmless) (time : Timestamp) (t : List Char) :
    exportsIn (liveWords ((sectionText time kind findings).toList ++ t)) =
      (firstStubs findings).map (·.functionName) ++ exportsIn (liveWords t) := by
  have first : ∀ p ∈ (findings.take stubsPerType).zipIdx, p.1.Harmless := fun p member =>
    harmless p.1 (List.mem_of_mem_take (List.fst_mem_of_mem_zipIdx member))
  have stubs := exportsIn_stubs first t
  rw [sectionText, String.toList_append, List.append_assoc, liveWords_header unclosed]
  simpa [firstStubs, Function.comp_def] using stubs

def namesIn (findings : List Finding) (file : String) : List String :=
  ((kinds findings).filter (fileOf · = file)).flatMap fun kind =>
    (firstStubs (ofKind findings kind)).map (·.functionName)

/-- Neither a type nor what else is told in comments ends a comment. -/
def Quiet (findings : List Finding) : Prop :=
  ∀ f ∈ findings, f.Harmless ∧ ¬ ['*', '/'] <:+: f.type.toList

theorem exportsIn_sections (quiet : Quiet findings) (time : Timestamp) {chosen : List String}
    (known : ∀ kind ∈ chosen, kind ∈ kinds findings) :
    exportsIn (liveWords (concat (chosen.map fun kind =>
      sectionText time kind (ofKind findings kind))).toList) =
        chosen.flatMap fun kind => (firstStubs (ofKind findings kind)).map (·.functionName) := by
  induction chosen with
  | nil => rw [List.map_nil, concat, List.foldl_nil, String.toList_empty, liveWords_nil]; rfl
  | cons kind chosen ih =>
    have parts := List.forall_mem_cons.mp known
    obtain ⟨f, inside, rfl⟩ := mem_kinds.mp parts.1
    have harmless : ∀ g ∈ ofKind findings f.type, g.Harmless := fun g member =>
      (quiet g (List.mem_of_mem_filter member)).1
    have rest := ih parts.2
    rw [toList_concat] at rest ⊢
    rw [List.map_cons, List.map_cons, List.flatten_cons,
      exportsIn_section (quiet f inside).2 harmless, rest]
    rfl

theorem exportedNames_sections (quiet : Quiet findings) (time : Timestamp) (file : String) :
    exportedNames (concat (((kinds findings).filter (fileOf · = file)).map fun kind =>
      sectionText time kind (ofKind findings kind))) = namesIn findings file :=
  exportsIn_sections quiet time fun _ member => List.mem_of_mem_filter member

/-! ## Names apart -/

theorem functionNameOf_injective (same : functionNameOf kind i = functionNameOf kind j) : i = j := by
  have texts := congrArg String.toList same
  simp only [functionNameOf, String.toList_append] at texts
  have numbers := List.append_cancel_left texts
  simp only [Numeral.text, String.toList_ofList] at numbers
  have next := Numeral.ofInt_injective numbers
  omega

/-- The stubs of a type are numbered, and differ in the number. -/
theorem names_ofKind (findings : List Finding) (kind : String) :
    (firstStubs (ofKind findings kind)).map (·.functionName) =
      (List.range ((ofKind findings kind).take stubsPerType).length).map fun i : Nat =>
        functionNameOf kind i := by
  have typed : ∀ p ∈ ((ofKind findings kind).take stubsPerType).zipIdx,
      (p.1.stub p.2).functionName = functionNameOf kind p.2 := by
    intro p member
    have inside := List.mem_of_mem_take (List.fst_mem_of_mem_zipIdx member)
    have type : p.1.type = kind := of_decide_eq_true (List.mem_filter.mp inside).2
    rw [← type]
    rfl
  rw [firstStubs, List.map_map, List.range_eq_range', ← List.zipIdx_map_snd, List.map_map]
  exact List.map_congr_left typed

/-- Only types without a file of their own share one. -/
theorem unlisted_of_shared (same : fileOf a = fileOf b) (apart : a ≠ b) :
    targetFiles.lookup a = none ∧ targetFiles.lookup b = none := by
  have own : ∀ p ∈ targetFiles, p.2 ≠ "misc-utils.ts" := by decide
  have single : ∀ p ∈ targetFiles, ∀ q ∈ targetFiles, p.2 = q.2 → p.1 = q.1 := by decide
  simp only [fileOf] at same
  cases left : targetFiles.lookup a with
  | none =>
    cases right : targetFiles.lookup b with
    | none => exact ⟨rfl, rfl⟩
    | some file =>
      rw [left, right] at same
      exact absurd same.symm (own _ (mem_of_lookup right))
  | some file =>
    cases right : targetFiles.lookup b with
    | none =>
      rw [left, right] at same
      exact absurd same (own _ (mem_of_lookup left))
    | some other =>
      rw [left, right] at same
      exact absurd (single _ (mem_of_lookup left) _ (mem_of_lookup right) same) apart

/-- Types without a file of their own have no base name either. -/
theorem name_of_unlisted (unlisted : targetFiles.lookup kind = none) (index : Int) :
    fileOf kind = "misc-utils.ts" ∧
      functionNameOf kind index = "utilityFunction" ++ Numeral.text (index + 1) := by
  have keys : functionNames.map (·.1) = targetFiles.map (·.1) := rfl
  have unnamed : functionNames.lookup kind = none := by
    rw [List.lookup_eq_none_iff] at unlisted ⊢
    have absent : ∀ key ∈ targetFiles.map (·.1), (kind != key) = true :=
      List.forall_mem_map.mpr unlisted
    rw [← keys] at absent
    exact List.forall_mem_map.mp absent
  simp [fileOf, functionNameOf, unlisted, unnamed]

theorem nodup_names (findings : List Finding) (kind : String) :
    ((firstStubs (ofKind findings kind)).map (·.functionName)).Nodup := by
  rw [names_ofKind]
  refine List.nodup_range.map fun i j same => ?_
  have numbers := functionNameOf_injective same
  omega

/-- Each type that occurs has a stub with the first number. -/
theorem first_name_mem (inside : f ∈ findings) :
    functionNameOf f.type 0 ∈ (firstStubs (ofKind findings f.type)).map (·.functionName) := by
  have found : f ∈ ofKind findings f.type := List.mem_filter.mpr ⟨inside, by simp⟩
  have filled : 0 < ((ofKind findings f.type).take stubsPerType).length := by
    rw [List.length_take]
    exact lt_min (by decide) (List.length_pos_of_mem found)
  rw [names_ofKind]
  exact List.mem_map_of_mem (f := fun i : Nat => functionNameOf f.type i) (List.mem_range.mpr filled)

/-- Names in a file clash as soon as two of its types have none of their own. -/
theorem nodup_namesIn_iff : (∀ file, (namesIn findings file).Nodup) ↔
    ∀ f ∈ findings, ∀ g ∈ findings, targetFiles.lookup f.type = none →
      targetFiles.lookup g.type = none → f.type = g.type := by
  simp only [namesIn, List.nodup_flatMap, nodup_names, implies_true, true_and]
  constructor
  · intro apart f hf g hg unlisted unlisted'
    by_contra different
    have member {h : Finding} (inside : h ∈ findings) (none : targetFiles.lookup h.type = none) :
        h.type ∈ (kinds findings).filter (fileOf · = "misc-utils.ts") := by
      simp [mem_kinds.mpr ⟨h, inside, rfl⟩, (name_of_unlisted none 0).1]
    have symm : Std.Symm (Function.onFun List.Disjoint fun kind =>
        (firstStubs (ofKind findings kind)).map (·.functionName)) := ⟨fun _ _ h => h.symm⟩
    have disjoint := (apart "misc-utils.ts").forall (member hf unlisted) (member hg unlisted')
      different
    refine disjoint (first_name_mem hf) ?_
    rw [(name_of_unlisted unlisted 0).2, ← (name_of_unlisted unlisted' 0).2]
    exact first_name_mem hg
  · intro single file
    have distinct := (Buckets.nodup_eraseDups (findings.map (·.type))).filter (fileOf · = file)
    refine distinct.pairwise_of_forall_ne fun a ha b hb different => ?_
    simp only [List.mem_filter, decide_eq_true_eq] at ha hb
    obtain ⟨f, hf, rfl⟩ := mem_kinds.mp ha.1
    obtain ⟨g, hg, rfl⟩ := mem_kinds.mp hb.1
    have unlisted := unlisted_of_shared (ha.2.trans hb.2.symm) different
    exact absurd (single f hf g hg unlisted.1 unlisted.2) different

/-! ## Templates -/

theorem mem_fileNames_of_mem_namesIn (member : name ∈ namesIn findings file) :
    file ∈ (findings.map fun f => fileOf f.type).eraseDups := by
  obtain ⟨kind, known, _⟩ := List.mem_flatMap.mp member
  simp only [List.mem_filter, decide_eq_true_eq] at known
  obtain ⟨f, inside, rfl⟩ := mem_kinds.mp known.1
  rw [List.mem_eraseDups, ← known.2]
  exact List.mem_map_of_mem inside

/-- What a template exports are its stubs, and their names differ exactly if at most one of the types
that occur has no file of its own: a second one shares the file of the first and counts from one
again. -/
theorem exported_names_distinct_iff (listed : Lists report findings) (time : Timestamp) :
    ∃ files, templates report time = .ok files ∧
      ((∀ t ∈ files, (namesIn findings t.file).Nodup) ↔
        ∀ f ∈ findings, ∀ g ∈ findings, targetFiles.lookup f.type = none →
          targetFiles.lookup g.type = none → f.type = g.type) ∧
      (Quiet findings → ∀ t ∈ files, exportedNames t.content = namesIn findings t.file) := by
  refine ⟨_, templates_eq listed time, ?_, ?_⟩
  · rw [← nodup_namesIn_iff, List.forall_mem_map]
    constructor
    · intro each file
      by_cases named : namesIn findings file = []
      · rw [named]
        exact List.nodup_nil
      · obtain ⟨name, member⟩ := List.exists_mem_of_ne_nil _ named
        exact each file (mem_fileNames_of_mem_namesIn member)
    · exact fun each file _ => each file
  · intro quiet t member
    obtain ⟨file, _, rfl⟩ := List.mem_map.mp member
    exact exportedNames_sections quiet time file

theorem quiet_onlyType {given : List String}
    (unclosed : ∀ kind ∈ given, ¬ ['*', '/'] <:+: kind.toList) :
    Quiet (given.map onlyType) := by
  refine List.forall_mem_map.mpr fun kind member => ⟨⟨?_, ?_, ?_⟩, unclosed kind member⟩
  · simp [onlyType, Value.display]
  · simp [onlyType]
  · simp [onlyType]

def typesOnly (given : List String) : Value :=
  .record [("duplicates", .list (given.map fun kind => .record [("type", .text kind)]))]

theorem lists_typesOnly (given : List String) : Lists (typesOnly given) (given.map onlyType) := by
  refine ⟨_, _, rfl, rfl, ?_⟩
  rw [List.forall₂_map_left_iff, List.forall₂_map_right_iff, List.forall₂_same]
  exact fun kind _ => records_onlyType kind

/-- The functions of one type without a file of its own, and of others that have one. -/
theorem exports_one_unlisted :
    ∃ files, templates (typesOnly ["x", "api-call", "x"]) Command.newYear = .ok files ∧
      ∀ t ∈ files, (exportedNames t.content).Nodup := by
  obtain ⟨files, made, distinct, exported⟩ :=
    exported_names_distinct_iff (lists_typesOnly ["x", "api-call", "x"]) Command.newYear
  have unclosed : ∀ kind ∈ ["x", "api-call", "x"], ¬ ['*', '/'] <:+: kind.toList := by decide
  refine ⟨files, made, fun t member => ?_⟩
  rw [exported (quiet_onlyType unclosed) t member]
  exact distinct.mpr (by decide) t member

/-- Two types without a file of their own export one function twice. -/
theorem exports_two_unlisted :
    ∃ content, templates (typesOnly ["x", "y"]) Command.newYear = .ok [⟨"misc-utils.ts", content⟩] ∧
      exportedNames content = ["utilityFunction1", "utilityFunction1"] ∧
      ¬ (exportedNames content).Nodup := by
  have unclosed : ∀ kind ∈ ["x", "y"], ¬ ['*', '/'] <:+: kind.toList := by decide
  have exported := exportedNames_sections (quiet_onlyType unclosed) Command.newYear "misc-utils.ts"
  have names : namesIn (["x", "y"].map onlyType) "misc-utils.ts" =
      ["utilityFunction1", "utilityFunction1"] := by decide +kernel
  rw [names] at exported
  have clash : ¬ ["utilityFunction1", "utilityFunction1"].Nodup := by decide
  rw [← exported] at clash
  exact ⟨_, templates_eq (lists_typesOnly ["x", "y"]) Command.newYear, exported, clash⟩

end Utility

end CloneScan
