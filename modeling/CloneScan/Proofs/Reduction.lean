import CloneScan.Proofs.Balance
import CloneScan.Proofs.Specimen
import CloneScan.Report.Text
import Mathlib.Algebra.Order.BigOperators.Group.List
import Mathlib.Algebra.Order.Ring.Int

/-! What a report promises to save. Every group of a run has two members at least, each as long as
some window, so the saving that is reported cannot fall below a bound that the settings alone
decide. -/
namespace CloneScan

/-- The size of the smallest windows. -/
def Settings.leastSize (settings : Settings) : Nat :=
  (settings.blockSizes.map (·.val)).min (mt List.map_eq_nil_iff.mp settings.blockSizes_ne_nil)

theorem Settings.leastSize_le {settings : Settings} {size : Positive}
    (listed : size ∈ settings.blockSizes) : settings.leastSize ≤ size.val :=
  List.min_le_of_mem (List.mem_map_of_mem listed)

/-- Large enough to be told of, and as long as a window. -/
structure Group.Sized (settings : Settings) (g : Group) : Prop where
  count : 2 ≤ g.count
  lineCount : ∃ size ∈ settings.blockSizes, g.lineCount = size.val

theorem Group.Sized.impact {settings : Settings} {g : Group} (sized : g.Sized settings) :
    2 * (settings.leastSize : Int) ≤ g.impact := by
  obtain ⟨size, listed, lines⟩ := sized.lineCount
  have long : settings.leastSize ≤ size.val := Settings.leastSize_le listed
  have product : 2 * settings.leastSize ≤ g.count * size.val := Nat.mul_le_mul sized.count long
  rw [Group.impact, lines]
  exact_mod_cast product

theorem totalImpact_ge {settings : Settings} {groups : List Group}
    (sized : ∀ g ∈ groups, g.Sized settings) :
    groups.length * (2 * (settings.leastSize : Int)) ≤ totalImpact groups := by
  have each : ∀ impact ∈ groups.map (·.impact), 2 * (settings.leastSize : Int) ≤ impact := by
    intro impact member
    obtain ⟨g, grouped, rfl⟩ := List.mem_map.mp member
    exact (sized g grouped).impact
  have sum := List.card_nsmul_le_sum _ _ each
  rwa [List.length_map, nsmul_eq_mul, ← totalImpact_eq_sum] at sum

namespace Analysis

theorem groups_sized {settings : Settings} {sources : List Node.Source} {shown : String}
    {g : Group}
    (grouped : g ∈ (ofIndex settings shown (Index.ofSources settings sources)).report.groups) :
    g.Sized settings := by
  obtain ⟨members, b, hb, c, hc, apart⟩ := mem_groups grouped
  refine ⟨?_, ?_⟩
  · have pair : [b, c].Nodup := by
      rw [List.nodup_cons, List.mem_singleton]
      exact ⟨fun same => apart (congrArg Block.locationKey same), List.nodup_singleton c⟩
    have within : [b, c] ⊆ g.blocks := List.cons_subset.mpr ⟨hb, List.cons_subset.mpr ⟨hc, by simp⟩⟩
    exact (pair.subperm within).length_le
  · have first : g.representative ∈ g.blocks := List.mem_cons_self
    rw [members, Group.mem_membersOf] at first
    exact Index.lineCount_listed first.1

/-- A run over a directory succeeds, and whatever a run reports, its groups have two members at
least and lengths of windows. So each group saves twice the smallest size less what a shared
function costs, if not more, and the saving shown is not negative if that difference is not. -/
theorem reduction_bounded (settings : Settings) (d : Disk) (root : Path) (shown : String) :
    (settings.Searchable → d.isDirectory root = .ok true → ∃ a, run settings d root shown = .ok a) ∧
      ∀ a, run settings d root shown = .ok a →
        (∀ g ∈ a.report.groups,
          2 ≤ g.count ∧ ∃ size ∈ settings.blockSizes, g.lineCount = size.val) ∧
        a.report.totalPatterns * (2 * settings.leastSize - settings.minLines.val : Int) ≤
          a.report.potentialReduction ∧
        (settings.minLines.val ≤ 2 * settings.leastSize → 0 ≤ a.report.potentialReduction) ∧
        (a.report.groups ≠ [] →
          "   Potential lines to reduce: " ++ Numeral.text a.report.potentialReduction ∈
            a.report.textLines settings) := by
  refine ⟨fun searchable directory => ?_, fun a done => ?_⟩
  · obtain ⟨sources, found⟩ := Discovery.find_ok searchable directory
    exact ⟨_, run_eq_ok_iff.mpr ⟨directory, sources, found, rfl⟩⟩
  obtain ⟨_, sources, _, rfl⟩ := run_eq_ok_iff.mp done
  let report := (ofIndex settings shown (Index.ofSources settings sources)).report
  have sized : ∀ g ∈ report.groups, g.Sized settings := fun g grouped => groups_sized grouped
  have bound : report.totalPatterns * (2 * settings.leastSize - settings.minLines.val : Int) ≤
      report.potentialReduction := by
    have total := totalImpact_ge sized
    have cost : report.minLines = settings.minLines.val := rfl
    rw [Report.potentialReduction, Report.totalPatterns, Report.totalLines, cost, mul_sub]
    exact sub_le_sub_right total _
  refine ⟨fun g grouped => ⟨(sized g grouped).count, (sized g grouped).lineCount⟩, bound, ?_, ?_⟩
  · intro cheap
    have gain : (0 : Int) ≤ 2 * settings.leastSize - settings.minLines.val := by omega
    exact (mul_nonneg (Int.natCast_nonneg _) gain).trans bound
  · intro some
    have filled : report.groups.isEmpty = false := List.isEmpty_eq_false_iff.mpr some
    show _ ∈ report.textLines settings
    rw [Report.textLines, filled]
    simp [Report.summaryText, report]

/-- Five lines that stand in two files are reported, and the saving is not negative. -/
theorem copies_reduction_bounded :
    Settings.default.Searchable ∧ (Disk.copies 5 5).isDirectory Path.here = .ok true ∧
    Settings.default.minLines.val ≤ 2 * Settings.default.leastSize ∧
    ∃ a, run .default (Disk.copies 5 5) Path.here "." = .ok a ∧ a.report.groups ≠ [] ∧
      a.report.totalPatterns * (2 * Settings.default.leastSize - 5 : Int) ≤
        a.report.potentialReduction ∧
      0 ≤ a.report.potentialReduction := by
  have searchable := Settings.default_searchable
  have directory : (Disk.copies 5 5).isDirectory Path.here = .ok true := Disk.pair_isDirectory _ _ _
  have cheap : Settings.default.minLines.val ≤ 2 * Settings.default.leastSize := by decide
  obtain ⟨succeeds, bounded⟩ := reduction_bounded .default (Disk.copies 5 5) Path.here "."
  obtain ⟨a, done⟩ := succeeds searchable directory
  obtain ⟨_, bound, saving, _⟩ := bounded a done
  obtain ⟨b, again, g, grouped, _⟩ :=
    Disk.copies_reported ⟨5, by decide⟩ ⟨5, by decide⟩ (by decide) (by decide) "."
  obtain rfl : a = b := Except.ok.inj (done.symm.trans again)
  exact ⟨searchable, directory, cheap, a, done, List.ne_nil_of_mem grouped, bound, saving cheap⟩

end Analysis

end CloneScan
