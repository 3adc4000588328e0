import CloneScan.Proofs.Scanning
import Mathlib.Data.List.Range
import Mathlib.Order.Basic

/-! The scan of a text as a choice among its windows. They stand in one order: by the place of their
size in the list of sizes, then from the top down. The scan takes the first ones that pass, as many
as its limit allows, and it is truncated exactly if some window comes after the last one that the
limit allowed. -/
namespace CloneScan.Scan

/-- Text enough, words enough, and as many lines of code as of comments and imports. -/
structure Passes (minTokens : Nat) (window : List (List Char)) : Prop where
  length : 100 ≤ (Text.trim (Text.unlines window)).length
  words : minTokens ≤ (Text.words (Text.unlines window)).length
  code : window.length ≤
    2 * window.countP fun l => !Source.isCommentLine l && !Source.isImportLine l

theorem accepts_iff {minTokens : Nat} {window : List (List Char)} :
    accepts minTokens window = true ↔ Passes minTokens window := by
  have words : wordCount (Text.trim (Text.unlines window)) =
      (Text.words (Text.unlines window)).length := by
    rw [wordCount, Text.words_trim]
  have code : (window.filter Source.isCodeLine).length =
      window.countP fun l => !Source.isCommentLine l && !Source.isImportLine l := by
    rw [← List.countP_eq_length_filter]
    congr 1
    funext l
    rw [Source.isCodeLine, Bool.not_or]
  simp only [accepts, words, code, Bool.and_eq_true, decide_eq_true_eq]
  exact ⟨fun ⟨⟨length, words⟩, code⟩ => ⟨length, words, code⟩,
    fun passes => ⟨⟨passes.length, passes.words⟩, passes.code⟩⟩

instance (minTokens : Nat) (window : List (List Char)) : Decidable (Passes minTokens window) :=
  decidable_of_iff _ accepts_iff

/-- A position together with the place of its size in the list of sizes. A size that is listed twice
has two places, and so its windows are met twice. -/
structure Slot extends Position where
  rank : Nat

namespace Slot

/-- The order of a scan: by sizes, then from the top down. -/
def Before (a b : Slot) : Prop := a.rank < b.rank ∨ a.rank = b.rank ∧ a.start < b.start

/-- The windows that a text of some lines has: of a listed size, and not on the last line. -/
def Exists (sizes : List Positive) (lineCount : Nat) (s : Slot) : Prop :=
  ∃ size, sizes[s.rank]? = some size ∧ s.size = size.val ∧ s.start + s.size < lineCount

structure Makes (file : String) (lines : List (List Char)) (s : Slot) (b : Block) : Prop where
  file : b.file = file
  startLine : b.startLine = s.start + 1
  endLine : b.endLine = s.start + s.size
  content : b.content = .ofList (Text.unlines (s.window lines))
  tokens : b.tokens = (Text.words (Text.unlines (s.window lines))).length
  fingerprint : b.fingerprint = Source.fingerprint b.content

theorem Before.asymm {a b : Slot} (before : a.Before b) : ¬ b.Before a := by
  simp only [Before] at before ⊢
  omega

end Slot

def slots (sizes : List Positive) (lineCount : Nat) : List Slot :=
  sizes.zipIdx.flatMap fun (size, rank) =>
    (List.range (lineCount - size.val)).map fun start => ⟨⟨size.val, start⟩, rank⟩

theorem slots_positions (sizes : List Positive) (lineCount : Nat) :
    (slots sizes lineCount).map Slot.toPosition = positions sizes lineCount := by
  have sizesOnly : sizes = sizes.zipIdx.map Prod.fst := (List.zipIdx_map_fst 0 sizes).symm
  conv_rhs => rw [sizesOnly]
  rw [slots, positions, List.map_flatMap, List.flatMap_map]
  simp only [List.map_map, Function.comp_def]

theorem mem_slots {sizes : List Positive} {lineCount : Nat} {s : Slot} :
    s ∈ slots sizes lineCount ↔ s.Exists sizes lineCount := by
  simp only [slots, List.mem_flatMap, List.mem_map, List.mem_range]
  constructor
  · rintro ⟨⟨size, rank⟩, listed, start, bound, rfl⟩
    refine ⟨size, List.mem_zipIdx_iff_getElem?.mp listed, rfl, ?_⟩
    dsimp only at bound ⊢
    omega
  · rintro ⟨size, listed, same, bound⟩
    refine ⟨(size, s.rank), List.mem_zipIdx_iff_getElem?.mpr listed, s.start, ?_, ?_⟩
    · dsimp only
      omega
    · rw [← same]

theorem slots_ordered (sizes : List Positive) (lineCount : Nat) :
    (slots sizes lineCount).Pairwise Slot.Before := by
  have ranks : sizes.zipIdx.Pairwise fun a b => a.2 < b.2 := by
    have numbered := List.pairwise_lt_range' (s := 0) (n := sizes.length) 1
    rwa [← List.zipIdx_map_snd 0 sizes, List.pairwise_map] at numbered
  rw [slots, List.pairwise_flatMap]
  constructor
  · rintro ⟨size, rank⟩ _
    rw [List.pairwise_map]
    exact List.pairwise_lt_range.imp fun lower => .inr ⟨rfl, lower⟩
  · refine ranks.imp fun {a b} lower s left t right => ?_
    obtain ⟨_, _, rfl⟩ := List.mem_map.mp left
    obtain ⟨_, _, rfl⟩ := List.mem_map.mp right
    exact .inl lower

/-- A scan is truncated if its limit is used up before the last position. -/
theorem collect_truncated (accepted : Position → Bool) (build : Position → Block) {room : Nat}
    (some : 0 < room) (ps : List Position) :
    (collect accepted build room ps).2 = true ↔ room ≤ (ps.dropLast.filter accepted).length := by
  obtain ⟨room, rfl⟩ := Nat.exists_eq_add_one.mpr some
  clear some
  induction ps generalizing room with
  | nil => simp [collect]
  | cons p ps ih =>
    cases ps with
    | nil => cases taken : accepted p <;> simp [collect, taken]
    | cons next rest =>
      rw [List.dropLast_cons_cons]
      cases taken : accepted p with
      | false => simpa [collect, taken] using ih room
      | true =>
        cases room with
        | zero => simp [collect, taken]
        | succ room => simpa [collect, taken] using ih room

/-- The windows of a text that pass, in the order of its scan. -/
def passing (settings : Settings) (lines : List (List Char)) : List Slot :=
  (slots settings.blockSizes lines.length).filter fun s =>
    Passes settings.minTokens.val (s.window lines)

theorem accepts_eq_decide (minTokens : Nat) (window : List (List Char)) :
    accepts minTokens window = decide (Passes minTokens window) := by
  rw [Bool.eq_iff_iff, accepts_iff, decide_eq_true_eq]

theorem passing_positions (settings : Settings) (lines : List (List Char)) :
    (passing settings lines).map Slot.toPosition = acceptedPositions settings lines := by
  rw [acceptedPositions, ← slots_positions, List.filter_map, passing]
  congr 2
  funext s
  exact (accepts_eq_decide _ _).symm

theorem makes_block (file : String) {lines : List (List Char)} {s : Slot}
    (real : s.Exists sizes lines.length) : s.Makes file lines (s.toPosition.block file lines) := by
  obtain ⟨_, _, _, bound⟩ := real
  have length := length_window s.toPosition lines (by omega)
  refine ⟨rfl, rfl, ?_, rfl, ?_, ?_⟩
  · simp only [Position.block, block, length]
  · simp only [Position.block, block, wordCount, Text.words_trim]
  · exact fingerprint_block ..

theorem mem_passing {settings : Settings} {lines : List (List Char)} {s : Slot} :
    s ∈ passing settings lines ↔ s.Exists settings.blockSizes lines.length ∧
      Passes settings.minTokens.val (s.window lines) := by
  rw [passing, List.mem_filter, mem_slots, decide_eq_true_eq]

/-- In an ordered list of windows, as many as the limit can be kept of those before the end exactly
if the limit is reached and the last one that is kept is not the end. -/
theorem limit_reached {all : List Slot} (ordered : all.Pairwise Slot.Before) (keeps : Slot → Bool)
    {limit : Nat} (some : 0 < limit) :
    limit ≤ (all.dropLast.filter keeps).length ↔
      ((all.filter keeps).take limit).length = limit ∧
        ∃ last ∈ ((all.filter keeps).take limit).getLast?, ∃ s ∈ all, last.Before s := by
  rcases List.eq_nil_or_concat' all with rfl | ⟨before, final, rfl⟩
  · simp only [List.dropLast_nil, List.filter_nil, List.take_nil, List.length_nil]
    omega
  rw [List.dropLast_concat, List.filter_append]
  obtain ⟨_, _, upTo⟩ := List.pairwise_append.mp ordered
  constructor
  · intro enough
    rw [List.take_append_of_le_length enough]
    have full := List.length_take_of_le enough
    have filled : (before.filter keeps).take limit ≠ [] := List.ne_nil_of_length_pos (by omega)
    refine ⟨full, _, List.getLast?_eq_some_getLast filled, final, by simp, ?_⟩
    have kept := List.mem_of_mem_take (List.getLast_mem filled)
    exact upTo _ (List.mem_of_mem_filter kept) final (List.mem_singleton_self final)
  · rintro ⟨full, last, isLast, s, member, later⟩
    by_contra few
    -- the limit is only reached with the end itself, and nothing comes after the end
    cases keepsFinal : keeps final with
    | false =>
      simp only [List.filter_cons, keepsFinal, List.length_take, List.length_append] at full
      simp only [Bool.false_eq_true, if_false, List.filter_nil, List.length_nil] at full
      omega
    | true =>
      rw [List.filter_singleton, keepsFinal, cond_true] at isLast
      rw [List.take_of_length_le (by simp; omega), List.getLast?_concat] at isLast
      obtain rfl := Option.mem_some.mp isLast
      rcases List.mem_append.mp member with earlier | same
      · exact later.asymm (upTo s earlier _ (List.mem_singleton_self _))
      · obtain rfl := List.mem_singleton.mp same
        exact later.asymm later

theorem blocks_passing (settings : Settings) (file : String) (text : List Char) :
    (ofText settings file text).blocks =
      ((passing settings (Text.lines text)).take settings.maxBlocksPerFile.val).map
        fun s => s.toPosition.block file (Text.lines text) := by
  rw [blocks_ofText, ← passing_positions, ← List.map_take, List.map_map]
  rfl

theorem makes_passing (file : String) {settings : Settings} {lines : List (List Char)}
    {kept : List Slot} (known : ∀ s ∈ kept, s ∈ passing settings lines) :
    List.Forall₂ (Slot.Makes file lines) kept
      (kept.map fun s => s.toPosition.block file lines) := by
  rw [List.forall₂_map_right_iff, List.forall₂_same]
  exact fun s member => makes_block file (mem_passing.mp (known s member)).1

theorem truncated_iff (settings : Settings) (file : String) (text : List Char) :
    (ofText settings file text).truncated = true ↔ settings.maxBlocksPerFile.val ≤
      ((slots settings.blockSizes (Text.lines text).length).dropLast.filter fun s =>
        Passes settings.minTokens.val (s.window (Text.lines text))).length := by
  have filtered (kept : List Slot) : ((kept.map Slot.toPosition).filter fun p =>
      accepts settings.minTokens.val (p.window (Text.lines text))).length =
      (kept.filter fun s => Passes settings.minTokens.val (s.window (Text.lines text))).length := by
    rw [List.filter_map, List.length_map]
    simp only [Function.comp_def, accepts_eq_decide]
  have scanned := collect_truncated
    (fun p => accepts settings.minTokens.val (p.window (Text.lines text)))
    (fun p => block file p.start (p.window (Text.lines text))) settings.maxBlocksPerFile.property
    (positions settings.blockSizes (Text.lines text).length)
  rw [← slots_positions, ← List.map_dropLast, filtered, slots_positions] at scanned
  exact scanned

/-- A scan goes through the windows of a text size by size and from the top down. Its blocks are
made by the first ones that pass, as many as the limit allows; it is truncated exactly if the limit
is reached and some window, passing or not, comes after the last one taken. A scan that is not
truncated has taken every window that passes. -/
theorem ofText_takes_first_passing (settings : Settings) (file : String) (text : List Char) :
    let lines := Text.lines text
    let all := slots settings.blockSizes lines.length
    let taken := (passing settings lines).take settings.maxBlocksPerFile.val
    let scan := ofText settings file text
    (all.Pairwise Slot.Before ∧ ∀ s, s ∈ all ↔ s.Exists settings.blockSizes lines.length) ∧
      List.Forall₂ (Slot.Makes file lines) taken scan.blocks ∧
      (scan.truncated = true ↔ scan.blocks.length = settings.maxBlocksPerFile.val ∧
        ∃ last ∈ taken.getLast?, ∃ s ∈ all, last.Before s) ∧
      (scan.truncated = false →
        List.Forall₂ (Slot.Makes file lines) (passing settings lines) scan.blocks) := by
  intro lines all taken scan
  have ordered : all.Pairwise Slot.Before := slots_ordered ..
  have blocks : scan.blocks = taken.map fun s => s.toPosition.block file lines :=
    blocks_passing ..
  have length : scan.blocks.length = taken.length := by rw [blocks, List.length_map]
  refine ⟨⟨ordered, fun s => mem_slots⟩, ?_, ?_, fun whole => ?_⟩
  · rw [blocks]
    exact makes_passing file fun s member => List.mem_of_mem_take member
  · rw [length]
    exact (truncated_iff settings file text).trans
      (limit_reached ordered _ settings.maxBlocksPerFile.property)
  · have everything : scan.blocks =
        (passing settings lines).map fun s => s.toPosition.block file lines := by
      rw [blocks_of_untruncated settings file text whole, ← passing_positions, List.map_map]
      rfl
    rw [everything]
    exact makes_passing file fun s member => member

end CloneScan.Scan
