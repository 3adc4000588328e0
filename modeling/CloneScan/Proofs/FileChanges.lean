import CloneScan.Proofs.Atomicity

/-! Changes to the files of a disk that leave its directories alone. Every path leads where it led, so
changes of this kind follow one another without a look at where they lead. Writing a file is such a
change, and so is a save, whether it comes to its end or not. -/
namespace CloneScan

namespace Disk

open Node (SameDirectories)

structure FilesChangedAt (changed : Location → Prop) (d after : Disk) : Prop
    extends d.ChangedOnlyAt changed after where
  directories : SameDirectories after.top d.top

variable {changed also : Location → Prop} {d e after : Disk}

theorem FilesChangedAt.refl (changed : Location → Prop) (d : Disk) : d.FilesChangedAt changed d where
  toChangedOnlyAt := .refl changed d
  directories _ := rfl

theorem FilesChangedAt.here (step : d.FilesChangedAt changed e) : e.here = d.here := by
  rw [step.frame]

theorem FilesChangedAt.mono (step : d.FilesChangedAt changed e)
    (within : ∀ place, changed place → also place) : d.FilesChangedAt also e where
  frame := step.frame
  paths := step.paths
  places place apart := step.places place fun inside => apart (within place inside)
  directories := step.directories

theorem FilesChangedAt.trans (first : d.FilesChangedAt changed e)
    (second : e.FilesChangedAt changed after) : d.FilesChangedAt changed after where
  frame := by
    rw [second.frame, first.frame]
  paths p place := (second.paths p place).trans (first.paths p place)
  places place apart := (second.places place apart).trans (first.places place apart)
  directories place := (second.directories place).trans (first.directories place)

theorem walk_cons_nameTooLong (top : Node) (place : Location) (part : String) (rest : List String) :
    walk top place (part :: rest) = .error .nameTooLong ↔
      top.isDirectoryAt place = true ∧ (longestName < part.utf8ByteSize ∨
        walk top (step place part) rest = .error .nameTooLong) := by
  rw [walk, Node.isDirectoryAt]
  cases top.at? place with
  | none => simp
  | some n =>
    cases n with
    | file content => simp [Node.isDirectory]
    | directory entries =>
      by_cases long : longestName < part.utf8ByteSize <;> simp [Node.isDirectory, long]

/-- Whether a name on the way is too long depends on the directories alone. -/
theorem walk_nameTooLong {m n : Node} (same : SameDirectories m n) (place : Location)
    (parts : List String) :
    walk m place parts = .error .nameTooLong ↔ walk n place parts = .error .nameTooLong := by
  induction parts generalizing place with
  | nil => simp only [walk, reduceCtorEq]
  | cons part rest ih => rw [walk_cons_nameTooLong, walk_cons_nameTooLong, same, ih]

theorem FilesChangedAt.locate_nameTooLong (step : d.FilesChangedAt changed e) (p : Path) :
    e.locate p = .error .nameTooLong ↔ d.locate p = .error .nameTooLong := by
  have start : e.start p = d.start p := by rw [Disk.start, Disk.start, step.here]
  have opened (f : Disk) : f.locate p =
      if p.hasNull then .error .nullCharacter
      else if longestPath < p.text.utf8ByteSize then .error .nameTooLong
      else walk f.top (f.start p) p.parts := rfl
  rw [opened, opened, start]
  cases p.hasNull with
  | true => rfl
  | false =>
    by_cases long : longestPath < p.text.utf8ByteSize
    · simp only [if_pos long]
    · simp only [if_neg long, Bool.false_eq_true, if_false]
      exact walk_nameTooLong step.directories _ _

theorem look_eq_ok {p : Path} {stood : Option Node} :
    d.look p = .ok stood ↔ d.locate p ≠ .error .nameTooLong ∧ d.node? p = stood := by
  rw [look]
  split
  next tooLong => simp [tooLong]
  next askable =>
    rw [Except.ok.injEq]
    exact ⟨fun same => ⟨askable, same⟩, And.right⟩

/-- A path that leads to no changed place shows what it showed before, if that is no directory. -/
theorem FilesChangedAt.look_eq (step : d.FilesChangedAt changed e) {p : Path}
    {stood : Option Node} (seen : d.look p = .ok stood) (flat : stood.any Node.isDirectory = false)
    (apart : ∀ place, d.locate p = .ok place → ¬ changed place) : e.look p = .ok stood := by
  obtain ⟨askable, found⟩ := look_eq_ok.mp seen
  refine look_eq_ok.mpr ⟨mt (step.locate_nameTooLong p).mp askable, ?_⟩
  cases leads : d.locate p with
  | ok place =>
    have same := step.places place (apart place leads)
    rw [node?, leads] at found
    rw [node?, (step.paths p place).mpr leads]
    dsimp only at found ⊢
    rw [Node.surface?, Node.surface?, found] at same
    cases stood with
    | none => exact Option.map_eq_none_iff.mp same
    | some n =>
      cases n with
      | directory entries => cases flat
      | file content => exact Node.surface?_eq_file.mp same
  | error cause =>
    rw [node?, leads] at found
    cases now : e.locate p with
    | error _ => rw [node?, now, ← found]
    | ok place => rw [(step.paths p place).mp now] at leads; cases leads

/-- A file that is put into a directory changes its own place. -/
theorem filesChangedAt_put {above : Location} {name : String}
    (inside : d.top.isDirectoryAt above = true)
    (free : d.top.isDirectoryAt (above ++ [name]) = false) (content : List UInt8) :
    d.FilesChangedAt (· = above ++ [name]) (d.put (above ++ [name]) content) := by
  have same := Node.put_sameDirectories inside free content
  refine ⟨⟨rfl, fun p place => @locate_congr d (d.put _ content) same rfl p place, ?_⟩, same⟩
  intro place apart
  rw [put, Node.surface?_put inside free, if_neg apart]

/-- A file that is taken away changes its own place. -/
theorem filesChangedAt_erase {above : Location} {name : String}
    (flat : d.top.isDirectoryAt (above ++ [name]) = false) :
    d.FilesChangedAt (· = above ++ [name]) { d with top := d.top.erase (above ++ [name]) } := by
  have same := Node.erase_sameDirectories flat
  refine ⟨⟨rfl, fun p place => @locate_congr d { d with top := _ } same rfl p place, ?_⟩, same⟩
  intro place apart
  rw [Node.surface?_erase flat, if_neg apart]

/-- A write changes the place that its path leads to. -/
theorem filesChangedAt_write {p : Path} {content : List UInt8} (named : p.endsInName = true)
    (wrote : d.write p content = .ok e) :
    d.FilesChangedAt (fun place => d.locate p = .ok place) e := by
  obtain ⟨place, found, free, rfl⟩ := write_eq_ok.mp wrote
  obtain ⟨above, _, inside, rfl⟩ := locate_named named found
  refine (filesChangedAt_put inside free content).mono ?_
  rintro _ rfl
  exact found

end Disk

namespace Store

/-- Where a save may write: at a path and beside it. -/
def Reaches (d : Disk) (path : Path) (place : Location) : Prop :=
  d.locate path = .ok place ∨
    ∃ beside, path.extend? temporarySuffix = some beside ∧ d.locate beside = .ok place

theorem save_filesChangedAt (settings : Settings) (r : Report) (d : Disk) (path : Path) :
    d.FilesChangedAt (Reaches d path) (save settings r d path).1 := by
  cases ended : save settings r d path with
  | mk after outcome =>
    cases outcome with
    | none =>
      obtain ⟨beside, place, besidePlace, _, named, found, foundBeside, _, _, _, changed⟩ :=
        saved_whole ended
      obtain ⟨above, replaced⟩ := @save_replaces settings r d path (by rw [ended])
      rw [ended] at replaced
      refine ⟨⟨changed.frame, changed.paths, fun other apart => changed.places other ?_⟩,
        replaced.directories⟩
      rintro (rfl | rfl)
      · exact apart (.inl found)
      · exact apart (.inr ⟨beside, named, foundBeside⟩)
    | some f =>
      rcases save_eq_some ended with rfl | ⟨beside, place, content, named, found, free, rfl⟩
      · exact .refl _ _
      · obtain ⟨above, _, inside, rfl⟩ := (Disk.beside_of_locate named found).place
        refine (Disk.filesChangedAt_put inside free content).mono ?_
        rintro _ rfl
        exact .inr ⟨beside, named, found⟩

end Store

end CloneScan
