import CloneScan.Block
import CloneScan.Buckets

/-! Groups of blocks that are copies of one another, ranked by the lines they account for. A group
has a first member, so its size and text never have to be asked of an empty list. -/
namespace CloneScan

structure Label where
  category : String
  suggestion : String
  deriving DecidableEq, Repr

def Label.none : Label := ⟨"unknown", ""⟩

structure Group where
  fingerprint : String
  /-- The member found first; it stands for the group. -/
  representative : Block
  /-- The other members, in the order in which they were found. -/
  others : List Block
  label : Label := .none
  deriving DecidableEq, Repr

namespace Group

inductive Fault where
  | noMembers
  deriving DecidableEq, Repr

def Fault.message : Fault → String
  | noMembers => "list index out of range"

def ofBlocks (fingerprint : String) : List Block → Except Fault Group
  | [] => .error .noMembers
  | first :: rest => .ok { fingerprint, representative := first, others := rest }

def blocks (g : Group) : List Block := g.representative :: g.others

def count (g : Group) : Nat := g.blocks.length

def lineCount (g : Group) : Int := g.representative.lineCount

/-- Lines that the members account for, each counted with the length of the first. -/
def impact (g : Group) : Int := g.count * g.lineCount

def distinctLocations (g : Group) : Nat := (g.blocks.map (·.locationKey)).eraseDups.length

/-- Files with a member, in the order in which they were found. -/
def files (g : Group) : List String := (g.blocks.map (·.file)).eraseDups

/-- Highest first; elements of equal worth keep their order. -/
def rankBy (worth : α → Int) (xs : List α) : List α :=
  xs.mergeSort fun x y => worth y ≤ worth x

theorem rankBy_perm (worth : α → Int) (xs : List α) : (rankBy worth xs).Perm xs :=
  List.mergeSort_perm xs _

/-- A bucket is a group when its blocks start at two different places. -/
def ofBucket? : String × List Block → Option Group
  | (fingerprint, members) =>
    match ofBlocks fingerprint members with
    | .ok g => if 2 ≤ g.count ∧ 2 ≤ g.distinctLocations then some g else none
    | .error _ => none

/-- The blocks of every fingerprint, in the order in which the fingerprints were first seen. -/
def buckets (bs : List Block) : List (String × List Block) := Buckets.ofList (·.fingerprint) bs

def ofList (bs : List Block) : List Group := rankBy impact ((buckets bs).filterMap ofBucket?)

end CloneScan.Group
