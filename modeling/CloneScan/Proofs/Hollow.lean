import CloneScan.Proofs.Specimen

/-! When members have a normal form at all. The filter takes lines for comments by how they start, and
blank lines for code, while the normal form drops comments wherever they end. The two agree on
windows of one line; any longer window can be a comment throughout and be reported as a copy of any
other comment. -/
namespace CloneScan

/-- Nothing is left of the text of a block but comments and blanks. -/
def Block.Hollow (b : Block) : Prop := Source.normalize b.content = ""

namespace Scan

theorem hollow_block_iff {file : String} {lines : List (List Char)} {p : Position} :
    (p.block file lines).Hollow ↔ Source.normalForm (Text.unlines (p.window lines)) = [] := by
  simp [Block.Hollow, Source.normalize, Position.block, block]

/-- Comments and blanks on one line are told by the start of the line. -/
theorem normalForm_ne_nil_of_accepts {line : List Char} (passes : accepts minTokens [line] = true) :
    Source.normalForm line ≠ [] := by
  intro hollow
  simp only [accepts, Text.unlines_singleton, Bool.and_eq_true, decide_eq_true_eq] at passes
  have visible : Text.trim line ≠ [] := by
    intro none
    rw [none] at passes
    exact absurd passes.1.1 (by decide)
  have comment := Source.isCommentLine_of_hollow hollow visible
  have code : Source.isCodeLine line = false := by simp [Source.isCodeLine, comment]
  simp [List.filter, code] at passes

theorem not_hollow_of_mem {settings : Settings} {sources : List Node.Source} {b : Block}
    (single : ∀ size ∈ settings.blockSizes, size.val = 1)
    (member : b ∈ (Index.ofSources settings sources).blocks) : ¬ b.Hollow := by
  obtain ⟨s, _, lines, _, p, accepted, rfl⟩ := Index.block_origin member
  obtain ⟨⟨size, listed, same⟩, bound, passes⟩ := mem_acceptedPositions.mp accepted
  have length := length_window p lines (by omega)
  rw [← same, single size listed] at length
  obtain ⟨line, window⟩ := List.length_eq_one_iff.mp length
  rw [window] at passes
  rw [hollow_block_iff, window, Text.unlines_singleton]
  exact normalForm_ne_nil_of_accepts passes

def Spelling.comment (letter : Char) (visible : Text.isBlank letter = false)
    (start : letter ∉ ['/', '*', 'i', '#']) : Spelling where
  letter
  opening := ['/', '*']
  closing := ['*', '/']
  solid := by
    intro c member
    have cases : c = letter ∨ c = '/' ∨ c = '*' := by
      simpa [or_left_comm, or_comm] using member
    rcases cases with rfl | rfl | rfl
    · exact visible
    · decide
    · decide
  short := by decide
  start

variable {settings : Settings}

/-- From two lines on, half of the lines or more do not start like a comment. -/
theorem Spelling.kept_of_two_le (s : Spelling) {size : Positive}
    (listed : size ∈ settings.blockSizes) (large : 2 ≤ size.val) :
    (s.ends settings.minTokens.val).Kept size.val where
  listed := ⟨size, listed, rfl⟩
  code := .inl large

theorem Spelling.comment_normalForm (letter : Char) (visible : Text.isBlank letter = false)
    (start : letter ∉ ['/', '*', 'i', '#']) (minTokens n : Nat) :
    Source.normalForm (Text.unlines (((comment letter visible start).ends minTokens).window n)) =
      [] := by
  have slash : '/' ≠ letter := by
    rintro rfl
    exact start (by decide)
  have noSlash := (comment letter visible start).not_mem_text (by decide) slash minTokens
  exact Ends.normalForm_comment _ rfl ((comment letter visible start).lastLine_eq minTokens)
    noSlash n

end Scan

/-- No member of any group is hollow, on every tree, exactly if no tree has any files to scan or all
windows have one line. -/
theorem members_filled_iff (settings : Settings) :
    (∀ d root shown a, d.top.WellNamed → Analysis.run settings d root shown = .ok a →
      ∀ g ∈ a.report.groups, ∀ b ∈ g.blocks, ¬ b.Hollow) ↔
    ¬ settings.Scans ∨ ∀ size ∈ settings.blockSizes, size.val = 1 := by
  constructor
  · intro filled
    by_cases scans : settings.Scans
    · right
      intro size listed
      obtain ⟨wanted, excluded, name, lowered, names, valid, chosen⟩ := scans
      by_contra other
      have positive := size.property
      have large : 2 ≤ size.val := by omega
      -- A comment of two lines or more passes the filters and has nothing left.
      let text := Scan.Spelling.comment 'x' (by decide) (by decide)
      have kept := text.kept_of_two_le listed large
      have hollow := Scan.Spelling.comment_normalForm 'x' (by decide) (by decide)
        settings.minTokens.val size.val
      obtain ⟨a, run, g, grouped, inside, _⟩ :=
        Scan.Ends.pair_reported lowered names chosen kept kept rfl ""
      refine filled _ _ _ a (Disk.pair_wellNamed valid _ _) run g grouped _ inside ?_
      rw [Scan.Ends.block, Scan.hollow_block_iff, Scan.Ends.window_file _ positive]
      exact hollow
    · exact .inl scans
  · rintro condition d root shown a valid run g grouped b inside
    obtain ⟨_, sources, found, rfl⟩ := Analysis.run_eq_ok_iff.mp run
    rw [(Analysis.mem_groups grouped).1, Group.mem_membersOf] at inside
    rcases condition with unscanned | single
    · obtain ⟨s, member, _⟩ := Index.block_origin inside.1
      exact absurd (Discovery.scans_of_mem valid found member) unscanned
    · exact Scan.not_hollow_of_mem single inside.1

/-- Under the default settings two comments with no word in common are copies of each other. -/
theorem default_comments_reported :
    (Disk.pair "a.ts" (((Scan.Spelling.comment 'x' rfl (by decide)).ends 50).file 5)
      (((Scan.Spelling.comment 'y' rfl (by decide)).ends 50).file 5)).top.WellNamed ∧
    ∃ a, Analysis.run .default
        (Disk.pair "a.ts" (((Scan.Spelling.comment 'x' rfl (by decide)).ends 50).file 5)
          (((Scan.Spelling.comment 'y' rfl (by decide)).ends 50).file 5)) Path.here "." = .ok a ∧
      ∃ g ∈ a.report.groups, ∃ b ∈ g.blocks, b.Hollow := by
  have valid : Node.IsName "a.ts" := ⟨by decide, by decide, by decide, by decide⟩
  have hx := Scan.Spelling.comment_normalForm 'x' rfl (by decide) 50 5
  have hy := Scan.Spelling.comment_normalForm 'y' rfl (by decide) 50 5
  have five : (⟨5, by decide⟩ : Positive) ∈ Settings.default.blockSizes := by decide
  have left := (Scan.Spelling.comment 'x' rfl (by decide)).kept_of_two_le five (by decide)
  have right := (Scan.Spelling.comment 'y' rfl (by decide)).kept_of_two_le five (by decide)
  obtain ⟨a, run, g, grouped, inside, _⟩ :=
    Scan.Ends.pair_reported rfl rfl Settings.default_wants left right (hx.trans hy.symm) "."
  refine ⟨Disk.pair_wellNamed valid _ _, a, run, g, grouped, _, inside, ?_⟩
  rw [Scan.Ends.block, Scan.hollow_block_iff, Scan.Ends.window_file _ left.positive]
  exact hx

end CloneScan
