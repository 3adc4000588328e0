import CloneScan.Files.Node

/-! What has to be done to a tree to make it another one. Only files are ever taken away. -/
namespace CloneScan

inductive Change where
  | makeDirectory (place : Location)
  | write (place : Location) (content : List UInt8)
  | remove (place : Location)
  deriving DecidableEq, Repr

namespace Node

def entriesOf : Option Node → List (String × Node)
  | some (directory entries) => entries
  | _ => []

def removals (place : Location) (before after : List (String × Node)) : List Change :=
  before.filterMap fun (name, n) =>
    if n.isFile && (after.lookup name).isNone then some (.remove (place ++ [name])) else none

mutual
/-- The steps at and below a place, directories before what they hold. -/
def changes (place : Location) (before : Option Node) : Node → List Change
  | file content =>
    match before with
    | some (file old) => if old = content then [] else [.write place content]
    | _ => [.write place content]
  | directory entries =>
    (if before.any isDirectory then [] else [.makeDirectory place]) ++
      removals place (entriesOf before) entries ++
      changesBelow place (entriesOf before) entries

def changesBelow (place : Location) (before : List (String × Node)) :
    List (String × Node) → List Change
  | [] => []
  | (name, n) :: rest =>
    changes (place ++ [name]) (before.lookup name) n ++ changesBelow place before rest
end

end CloneScan.Node
