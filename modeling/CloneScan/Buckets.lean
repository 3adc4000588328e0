/-! Collecting the elements of a list by a key. Keys stand in the order in which they first
appear, and the elements of one key in the order of the list. -/
namespace CloneScan.Buckets

/-- Adds one element to the bucket of its key, which is made at the end if it is new. -/
def add (same : κ → κ → Bool) (key : κ) (x : α) : List (κ × List α) → List (κ × List α)
  | [] => [(key, [x])]
  | (other, members) :: rest =>
    if same other key then (other, members ++ [x]) :: rest
    else (other, members) :: add same key x rest

def ofListBy (same : κ → κ → Bool) (key : α → κ) (xs : List α) : List (κ × List α) :=
  xs.foldl (fun buckets x => add same (key x) x buckets) []

def ofList [BEq κ] (key : α → κ) (xs : List α) : List (κ × List α) := ofListBy (· == ·) key xs

@[simp] theorem ofList_nil [BEq κ] (key : α → κ) : ofList key [] = [] := rfl

end CloneScan.Buckets
