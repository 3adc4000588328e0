import CloneScan.Files.Node

/-! The source files of a tree in their canonical order: the files of a directory by name, then
those of its directories by name. Names are compared by code points, so the order in which a
directory lists its entries does not matter. -/
namespace CloneScan.Node

def byName (xs : List (String × α)) : List (String × α) :=
  xs.mergeSort fun x y => decide (x.1 ≤ y.1)

structure Source where
  place : Location
  content : List UInt8
  deriving DecidableEq, Repr

def Source.below (name : String) (s : Source) : Source := ⟨name :: s.place, s.content⟩

def ownFiles (wanted : String → Bool) (entries : List (String × Node)) :
    List (String × List UInt8) :=
  entries.filterMap fun (name, n) =>
    match n with
    | file content => if wanted name then some (name, content) else none
    | directory _ => none

mutual
/-- Files with a wanted name, in all directories that may be entered. -/
def sources (wanted entered : String → Bool) : Node → List Source
  | file _ => []
  | directory entries =>
    (byName (ownFiles wanted entries)).map (fun (name, content) => ⟨[name], content⟩) ++
      (byName (sourcesBelow wanted entered entries)).flatMap fun (name, found) =>
        found.map (Source.below name)

def sourcesBelow (wanted entered : String → Bool) :
    List (String × Node) → List (String × List Source)
  | [] => []
  | (_, file _) :: rest => sourcesBelow wanted entered rest
  | (name, directory entries) :: rest =>
    if entered name then
      (name, sources wanted entered (directory entries)) :: sourcesBelow wanted entered rest
    else sourcesBelow wanted entered rest
end

end CloneScan.Node
