/-! A tree of files held in memory. A directory lists its entries in no particular order; names
within one directory are expected to differ. `at?` is the view through which every change is
described. -/
namespace CloneScan

inductive Node where
  | file (content : List UInt8)
  | directory (entries : List (String × Node))
  deriving Repr, Inhabited

/-- Names from the top of a tree down. -/
abbrev Location := List String

namespace Node

def isFile : Node → Bool
  | file _ => true
  | directory _ => false

def isDirectory : Node → Bool
  | file _ => false
  | directory _ => true

def at? : Location → Node → Option Node
  | [], n => some n
  | name :: rest, directory entries => (entries.lookup name).bind (at? rest)
  | _ :: _, file _ => none

/-- Replaces the entry of one name, or adds one at the end. -/
def alter (name : String) (f : Option Node → Node) :
    List (String × Node) → List (String × Node)
  | [] => [(name, f none)]
  | (other, n) :: rest =>
    if other = name then (other, f (some n)) :: rest else (other, n) :: alter name f rest

/-- Puts a node at a location. Directories on the way are made; a file on the way stays and
nothing is put. -/
def put : Location → Node → Node → Node
  | [], _, new => new
  | name :: rest, directory entries, new =>
    directory (alter name (fun old => put rest (old.getD (directory [])) new) entries)
  | _ :: _, file content, _ => file content

def erase : Location → Node → Node
  | [name], directory entries => directory (entries.filter (·.1 != name))
  | name :: rest, directory entries =>
    directory (entries.map fun (other, n) => (other, if other = name then erase rest n else n))
  | _, n => n

@[simp] theorem at?_nil (n : Node) : at? [] n = some n := by cases n <;> rfl

theorem at?_append (front back : Location) (n : Node) :
    n.at? (front ++ back) = (n.at? front).bind (at? back) := by
  induction front generalizing n with
  | nil => rw [List.nil_append, at?_nil, Option.bind_some]
  | cons name front ih =>
    cases n with
    | file content => rfl
    | directory entries =>
      rw [List.cons_append, at?, at?]
      cases entries.lookup name with
      | none => rfl
      | some m => exact ih m

theorem lookup_alter_self (name : String) (f : Option Node → Node)
    (entries : List (String × Node)) :
    (alter name f entries).lookup name = some (f (entries.lookup name)) := by
  fun_induction alter name f entries with
  | case1 => simp
  | case2 n rest => simp
  | case3 other n rest h ih => simp [List.lookup_cons, ih, beq_eq_false_iff_ne.mpr (Ne.symm h)]

theorem lookup_alter_other {name other : String} (h : other ≠ name) (f : Option Node → Node)
    (entries : List (String × Node)) :
    (alter name f entries).lookup other = entries.lookup other := by
  fun_induction alter name f entries with
  | case1 => simp [List.lookup_cons, beq_eq_false_iff_ne.mpr h]
  | case2 n rest => simp [List.lookup_cons, beq_eq_false_iff_ne.mpr h]
  | case3 _ n rest _ ih => simp [List.lookup_cons, ih]

end CloneScan.Node
