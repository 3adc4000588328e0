import CloneScan.Scan

/-! The scans of all files of a tree, in the order in which the files were found. Files may be read
side by side: each result goes to the place of its file, so the order of completion leaves no
trace in the index. -/
namespace CloneScan

structure Index where
  files : List Scan
  deriving DecidableEq, Repr

namespace Index

/-- Blocks in the order of the files, and within a file in the order of its scan. -/
def blocks (index : Index) : List Block := index.files.flatMap (·.blocks)

def filesScanned (index : Index) : Nat := (index.files.filter (·.readError.isNone)).length

/-- Files that could not be read, each with the reason. -/
def skipped (index : Index) : List (String × String) :=
  index.files.filterMap fun scan => scan.readError.map (scan.file, ·)

def truncatedFiles (index : Index) : List String :=
  (index.files.filter (·.truncated)).map (·.file)

end Index

structure Progress where
  done : Nat
  total : Nat
  deriving DecidableEq, Repr

namespace Assembly

def progress (total : Nat) : List Progress := (List.range total).map fun done => ⟨done + 1, total⟩

structure State (β : Type) where
  slots : List (Option β)
  told : List Progress

def start (total : Nat) : State β := ⟨List.replicate total none, []⟩

/-- The file at `place` is done: its result goes there, and one more file is told. -/
def complete (work : α → β) (xs : List α) (s : State β) (place : Nat) : State β :=
  match xs[place]? with
  | some x => ⟨s.slots.set place (some (work x)), s.told ++ [⟨s.told.length + 1, xs.length⟩]⟩
  | none => s

def completed (work : α → β) (xs : List α) (order : List Nat) : State β :=
  order.foldl (complete work xs) (start xs.length)

def results (s : State β) : List β := s.slots.filterMap id

structure Turns (β : Type) where
  results : List β
  told : List Progress

def turnsFrom (work : α → β) (total : Nat) : Nat → List α → Turns β
  | _, [] => ⟨[], []⟩
  | done, x :: rest =>
    let later := turnsFrom work total (done + 1) rest
    ⟨work x :: later.results, ⟨done + 1, total⟩ :: later.told⟩

def turns (work : α → β) (xs : List α) : Turns β := turnsFrom work xs.length 0 xs

def oneByOne (work : α → β) (xs : List α) : List β := (turns work xs).results

/-- With several workers the order of completion is free; any order gives the same results. -/
def sideBySide (work : α → β) (xs : List α) (order : List Nat) : List β :=
  results (completed work xs order)

end CloneScan.Assembly
