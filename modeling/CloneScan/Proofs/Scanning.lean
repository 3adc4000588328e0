import CloneScan.Proofs.Comments
import CloneScan.Scan

/-! What the scan of one text contributes. The loop with its limit is a prefix of the accepted
positions in their order, and all of them unless the scan is marked as truncated. -/
namespace CloneScan.Scan

/-- The limit only ever cuts off the end. -/
theorem collect_blocks (accepted : Position → Bool) (build : Position → Block) (room : Nat)
    (ps : List Position) :
    (collect accepted build room ps).1 = ((ps.filter accepted).take room).map build := by
  induction ps generalizing room with
  | nil => simp [collect]
  | cons p ps ih =>
    cases room with
    | zero => simp [collect]
    | succ room => cases taken : accepted p <;> simp [collect, taken, ih]

theorem collect_untruncated (accepted : Position → Bool) (build : Position → Block) (room : Nat)
    (ps : List Position) (whole : (collect accepted build room ps).2 = false) :
    (collect accepted build room ps).1 = (ps.filter accepted).map build := by
  induction ps generalizing room with
  | nil => simp [collect]
  | cons p ps ih =>
    cases room with
    | zero => simp [collect] at whole
    | succ room =>
      cases taken : accepted p with
      | false =>
        simp only [collect, taken] at whole ⊢
        simpa [taken] using ih (room + 1) whole
      | true =>
        simp only [collect, taken] at whole ⊢
        simpa [taken] using ih room whole

theorem collect_whole (accepted : Position → Bool) (build : Position → Block) (room : Nat)
    (ps : List Position) (few : ps.length ≤ room) : (collect accepted build room ps).2 = false := by
  induction ps generalizing room with
  | nil => simp [collect]
  | cons p ps ih =>
    rw [List.length_cons] at few
    cases room with
    | zero => omega
    | succ room =>
      cases taken : accepted p with
      | false => simpa [collect, taken] using ih (room + 1) (by omega)
      | true => simpa [collect, taken] using ih room (by omega)

theorem mem_positions {sizes : List Positive} {lineCount : Nat} {p : Position} :
    p ∈ positions sizes lineCount ↔
      (∃ size ∈ sizes, size.val = p.size) ∧ p.start + p.size < lineCount := by
  simp only [positions, List.mem_flatMap, List.mem_map, List.mem_range]
  constructor
  · rintro ⟨size, member, start, bound, rfl⟩
    exact ⟨⟨size, member, rfl⟩, by simp only; omega⟩
  · rintro ⟨⟨size, member, same⟩, bound⟩
    exact ⟨size, member, p.start, by omega, by rw [same]⟩

theorem length_window (p : Position) (lines : List (List Char))
    (bound : p.start + p.size ≤ lines.length) : (p.window lines).length = p.size := by
  simp only [Position.window, List.length_take, List.length_drop]
  omega

/-- The positions whose windows pass the filters, in the order of the scan. -/
def acceptedPositions (settings : Settings) (lines : List (List Char)) : List Position :=
  (positions settings.blockSizes lines.length).filter fun p =>
    accepts settings.minTokens.val (p.window lines)

def Position.block (file : String) (lines : List (List Char)) (p : Position) : Block :=
  Scan.block file p.start (p.window lines)

theorem mem_acceptedPositions {settings : Settings} {lines : List (List Char)} {p : Position} :
    p ∈ acceptedPositions settings lines ↔
      (∃ size ∈ settings.blockSizes, size.val = p.size) ∧ p.start + p.size < lines.length ∧
        accepts settings.minTokens.val (p.window lines) = true := by
  rw [acceptedPositions, List.mem_filter, mem_positions, and_assoc]

theorem blocks_ofText (settings : Settings) (file : String) (text : List Char) :
    (ofText settings file text).blocks =
      ((acceptedPositions settings (Text.lines text)).take settings.maxBlocksPerFile.val).map
        (Position.block file (Text.lines text)) :=
  collect_blocks ..

/-- A scan that is not marked as truncated has lost no accepted window. -/
theorem blocks_of_untruncated (settings : Settings) (file : String) (text : List Char)
    (whole : (ofText settings file text).truncated = false) :
    (ofText settings file text).blocks =
      (acceptedPositions settings (Text.lines text)).map (Position.block file (Text.lines text)) :=
  collect_untruncated _ _ _ _ whole

/-- The trimming before the digest leaves no trace in it. -/
theorem fingerprint_block (file : String) (start : Nat) (window : List (List Char)) :
    (block file start window).fingerprint = Source.fingerprint (.ofList (Text.unlines window)) := by
  apply Source.fingerprint_congr
  simp [Source.normalize, Source.normalForm_trim]

/-- Windows of one normal form make blocks of one fingerprint. -/
theorem fingerprint_eq_of_normalForm {file other : String} {ls lt : List (List Char)}
    {p q : Position}
    (same : Source.normalForm (Text.unlines (p.window ls)) =
      Source.normalForm (Text.unlines (q.window lt))) :
    (p.block file ls).fingerprint = (q.block other lt).fingerprint := by
  rw [Position.block, Position.block, fingerprint_block, fingerprint_block]
  apply Source.fingerprint_congr
  simp [Source.normalize, same]

theorem lineCount_block (file : String) (start : Nat) (window : List (List Char)) :
    (block file start window).lineCount = window.length := by
  simp only [block, Block.lineCount]
  omega

end CloneScan.Scan
