import CloneScan.Proofs.Ranking
import CloneScan.Report.Artifact
import Mathlib.Algebra.BigOperators.Ring.Finset

/-! The numbers of a stored report agree with one another. A ledger is what an artifact says in
numbers, read back from its fields. The totals, the tallies of the categories and the entries of a
ledger come from different sums over the groups of a report, and they balance. -/
namespace CloneScan

namespace Value

def number? (v : Value) (name : String) : Option Int :=
  match v.part name with
  | .ok (int i) => some i
  | _ => none

def text? (v : Value) (name : String) : Option String :=
  match v.part name with
  | .ok (text s) => some s
  | _ => none

def list? (v : Value) (name : String) : Option (List Value) :=
  match v.part name with
  | .ok (list items) => some items
  | _ => none

end Value

structure Tally where
  kind : String
  count : Int
  impact : Int

structure Entry where
  kind : String
  impact : Int
  count : Int
  lines : Int
  places : Int

structure Ledger where
  patterns : Int
  lines : Int
  tallies : List Tally
  entries : List Entry

namespace Tally

def read? (v : Value) : Option Tally := do
  return ⟨← v.text? "type", ← v.number? "count", ← v.number? "impact"⟩

def ofTotal (total : CategoryTotal) : Tally := ⟨total.category, total.count, total.impact⟩

theorem read?_total (total : CategoryTotal) :
    read? (.record [("type", .text total.category), ("count", .int total.count),
      ("impact", .int total.impact)]) = some (ofTotal total) := by
  simp [read?, Value.text?, Value.number?, Value.part, List.lookup_cons, ofTotal]

end Tally

namespace Entry

def read? (v : Value) : Option Entry := do
  return ⟨← v.text? "type", ← v.number? "impact", ← v.number? "count", ← v.number? "lines",
    (← v.list? "locations").length⟩

def ofGroup (g : Group) : Entry :=
  ⟨g.label.category, g.impact, g.count, g.lineCount, g.blocks.length⟩

theorem read?_duplicate (previewLength : Nat) (g : Group) :
    read? (Report.duplicate previewLength g) = some (ofGroup g) := by
  simp [read?, Report.duplicate, Value.text?, Value.number?, Value.list?, Value.part,
    List.lookup_cons, ofGroup]

end Entry

namespace Ledger

def read? (artifact : Value) : Option Ledger := do
  let summary ← (artifact.part "summary").toOption
  return ⟨← summary.number? "totalPatterns", ← summary.number? "totalLines",
    ← (← artifact.list? "categories").mapM Tally.read?,
    ← (← artifact.list? "duplicates").mapM Entry.read?⟩

/-- Every total is the sum of its parts, and the categories are those of the entries, each with what
its entries add up to. They stand by impact, and of equal impact in the order in which they are first
met. -/
structure Balanced (l : Ledger) : Prop where
  patterns : l.patterns = l.entries.length
  patterns_tallied : l.patterns = (l.tallies.map (·.count)).sum
  lines : l.lines = (l.entries.map (·.impact)).sum
  lines_tallied : l.lines = (l.tallies.map (·.impact)).sum
  entries : ∀ e ∈ l.entries, e.impact = e.count * e.lines ∧ e.count = e.places
  kinds_once : (l.tallies.map (·.kind)).Nodup
  kinds : ∀ kind, kind ∈ l.tallies.map (·.kind) ↔ kind ∈ l.entries.map (·.kind)
  tallies : ∀ t ∈ l.tallies,
    t.count = (l.entries.filter (·.kind = t.kind)).length ∧
      t.impact = ((l.entries.filter (·.kind = t.kind)).map (·.impact)).sum
  ranked : l.tallies.Pairwise fun t u => u.impact ≤ t.impact
  ties : l.tallies.Pairwise fun t u => t.impact = u.impact →
    (l.entries.map (·.kind)).idxOf t.kind < (l.entries.map (·.kind)).idxOf u.kind

end Ledger

/-- Reading every element, where reading succeeds on what was written. -/
theorem mapM_written {read : β → Option γ} {write : α → β} {said : α → γ}
    (each : ∀ a, read (write a) = some (said a)) (xs : List α) :
    (xs.map write).mapM read = some (xs.map said) := by
  induction xs with
  | nil => rfl
  | cons x rest ih => simp [each, ih]

theorem totalImpact_eq_sum (groups : List Group) :
    totalImpact groups = (groups.map (·.impact)).sum := by
  induction groups with
  | nil => rfl
  | cons g rest ih =>
    rw [List.map_cons, List.sum_cons, ← ih]
    rfl

namespace CategoryTotal

def ofMembers (bucket : String × List Group) : CategoryTotal :=
  ⟨bucket.1, bucket.2.length, totalImpact bucket.2⟩

theorem ofGroups_perm (groups : List Group) :
    (ofGroups groups).Perm ((Buckets.ofList (·.label.category) groups).map ofMembers) :=
  Group.rankBy_perm _ _

theorem categories_perm (groups : List Group) :
    ((ofGroups groups).map (·.category)).Perm (groups.map (·.label.category)).eraseDups := by
  refine ((ofGroups_perm groups).map _).trans ?_
  rw [Buckets.ofList_eq, List.map_map, List.map_map]
  simp [Function.comp_def, ofMembers]

theorem mem_ofGroups {groups : List Group} {total : CategoryTotal} (member : total ∈ ofGroups groups) :
    total.count = (groups.filter (·.label.category = total.category)).length ∧
      total.impact = ((groups.filter (·.label.category = total.category)).map (·.impact)).sum := by
  rw [(ofGroups_perm groups).mem_iff, Buckets.ofList_eq, List.map_map] at member
  obtain ⟨kind, _, rfl⟩ := List.mem_map.mp member
  have bucket := Buckets.filter_key (·.label.category) kind groups
  simp only [Function.comp, ofMembers, totalImpact_eq_sum, bucket, and_self]

theorem sum_counts (groups : List Group) :
    ((ofGroups groups).map (·.count)).sum = groups.length := by
  rw [((ofGroups_perm groups).map _).sum_eq, List.map_map,
    ← (Buckets.ofList_perm (·.label.category) groups).length_eq, List.length_flatMap]
  rfl

theorem sum_impacts (groups : List Group) :
    ((ofGroups groups).map (·.impact)).sum = totalImpact groups := by
  have whole := ((Buckets.ofList_perm (·.label.category) groups).map (·.impact)).sum_eq
  rw [((ofGroups_perm groups).map _).sum_eq, List.map_map, totalImpact_eq_sum, ← whole]
  induction Buckets.ofList (·.label.category) groups with
  | nil => rfl
  | cons bucket rest ih =>
    simp [ih, ofMembers, totalImpact_eq_sum]

theorem ofGroups_ties (groups : List Group) : (ofGroups groups).Pairwise fun t u =>
    t.impact = u.impact → (groups.map (·.label.category)).idxOf t.category <
      (groups.map (·.label.category)).idxOf u.category := by
  refine Group.rankBy_ties impact (List.pairwise_map.mpr ?_)
  exact Buckets.ofList_ordered _ groups

end CategoryTotal

namespace Ledger

def ofGroups (groups : List Group) : Ledger :=
  ⟨groups.length, totalImpact groups, (CategoryTotal.ofGroups groups).map Tally.ofTotal,
    groups.map Entry.ofGroup⟩

theorem read?_artifact (settings : Settings) (rootPath : String) (groups : List Group)
    (index : Option Index) :
    read? ((Report.ofGroups settings rootPath groups index).artifact settings) =
      some (ofGroups groups) := by
  have tallies := mapM_written Tally.read?_total (CategoryTotal.ofGroups groups)
  have entries := mapM_written (Entry.read?_duplicate settings.previewLength.val) groups
  cases index <;>
    simp [read?, Report.artifact, Report.ofGroups, Report.summary, Value.part, Value.number?,
      Value.list?, List.lookup_cons, Except.toOption, tallies, entries, ofGroups,
      Report.totalPatterns, Report.totalLines]

theorem filter_entries (groups : List Group) (kind : String) :
    (groups.map Entry.ofGroup).filter (·.kind = kind) =
      (groups.filter (·.label.category = kind)).map Entry.ofGroup :=
  List.filter_map

theorem balanced_ofGroups (groups : List Group) : (ofGroups groups).Balanced where
  patterns := by simp [ofGroups]
  patterns_tallied := by
    have counts := congrArg (Nat.cast : Nat → Int) (CategoryTotal.sum_counts groups)
    rw [Nat.cast_list_sum, List.map_map] at counts
    simpa [ofGroups, Tally.ofTotal, Function.comp_def] using counts.symm
  lines := by
    simp [ofGroups, totalImpact_eq_sum, Entry.ofGroup, Function.comp_def]
  lines_tallied := by
    simpa [ofGroups, Tally.ofTotal, Function.comp_def] using (CategoryTotal.sum_impacts groups).symm
  entries := by
    simp [ofGroups, Entry.ofGroup, Group.impact, Group.count]
  kinds_once := by
    have kinds := CategoryTotal.categories_perm groups
    simp only [ofGroups, List.map_map]
    exact kinds.nodup_iff.mpr (Buckets.nodup_eraseDups _)
  kinds := by
    intro kind
    have kinds := (CategoryTotal.categories_perm groups).mem_iff (a := kind)
    rw [List.mem_eraseDups] at kinds
    simp only [ofGroups, List.map_map]
    exact kinds
  tallies := by
    intro t member
    obtain ⟨total, listed, rfl⟩ := List.mem_map.mp member
    obtain ⟨count, impact⟩ := CategoryTotal.mem_ofGroups listed
    simp only [ofGroups, filter_entries, List.length_map, List.map_map]
    exact ⟨congrArg Nat.cast count, impact⟩
  ranked := by
    simp only [ofGroups, List.pairwise_map]
    exact Group.rankBy_descending _ _
  ties := by
    simp only [ofGroups, List.pairwise_map, List.map_map]
    exact CategoryTotal.ofGroups_ties groups

end Ledger

/-- The artifact of a report on any groups, in any order and of any categories, holds a ledger with
one entry for each group, and the ledger balances. -/
theorem artifact_balanced (settings : Settings) (rootPath : String) (groups : List Group)
    (index : Option Index) :
    ∃ ledger,
      Ledger.read? ((Report.ofGroups settings rootPath groups index).artifact settings) =
        some ledger ∧
      ledger.entries = groups.map Entry.ofGroup ∧ ledger.Balanced :=
  ⟨.ofGroups groups, Ledger.read?_artifact settings rootPath groups index, rfl,
    Ledger.balanced_ofGroups groups⟩

end CloneScan
