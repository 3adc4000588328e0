import CloneScan.Proofs.Pipeline
import CloneScan.Report.Format

/-! Several workers against one. In whatever order the files of a run are completed, the scans, the
progress told and the stored report are those of the loop that takes one file after another. -/
namespace CloneScan

def Settings.withWorkers (settings : Settings) (workers : Positive) : Settings :=
  { settings with workers }

namespace Analysis

def stored (settings : Settings) (shown : String) (index : Index) : Except Report.Fault String :=
  (ofIndex settings shown index).report.render .json settings

/-- Nothing after the scans looks at the number of workers. -/
theorem stored_withWorkers (settings : Settings) (workers : Positive) (shown : String)
    (index : Index) :
    stored (settings.withWorkers workers) shown index = stored settings shown index := rfl

theorem ofSources_withWorkers (settings : Settings) (workers : Positive) :
    Index.ofSources (settings.withWorkers workers) = Index.ofSources settings := by
  funext sources
  rw [Index.ofSources_eq, Index.ofSources_eq]
  rfl

theorem run_withWorkers (settings : Settings) (workers : Positive) (d : Disk) (root : Path)
    (shown : String) : run (settings.withWorkers workers) d root shown = run settings d root shown := by
  simp only [run, Index.ofTree, ofSources_withWorkers]
  rfl

end Analysis

open Assembly in
/-- Files that several workers complete in any order: no slot is left empty, each holds the scan of
its file, the progress told is that of one worker, and so is what is stored. The outcome of a run
does not hang on the number of workers. -/
theorem completion_order_forgotten {settings : Settings} {sources : List Node.Source}
    {order : List Nat} (all : order.Perm (List.range sources.length)) :
    (completed (Scan.ofSource settings) sources order).slots =
        (turns (Scan.ofSource settings) sources).results.map some ∧
      (completed (Scan.ofSource settings) sources order).told =
        (turns (Scan.ofSource settings) sources).told ∧
      (turns (Scan.ofSource settings) sources).told =
        (List.range sources.length).map (fun done => ⟨done + 1, sources.length⟩) ∧
      (∀ workers shown,
        Analysis.stored (settings.withWorkers workers) shown
            (.ofSourcesIn order (settings.withWorkers workers) sources) =
          Analysis.stored settings shown ⟨(turns (Scan.ofSource settings) sources).results⟩) ∧
      ∀ workers d root shown,
        Analysis.run (settings.withWorkers workers) d root shown =
          Analysis.run settings d root shown := by
  obtain ⟨slots, told⟩ := completed_eq (Scan.ofSource settings) sources order all
  refine ⟨slots, told, told_turns _ _, ?_, Analysis.run_withWorkers settings⟩
  intro workers shown
  rw [Analysis.stored_withWorkers, Index.ofSourcesIn_eq _ all, turns, results_turnsFrom]
  rfl

/-- Two files of which the second is done first. -/
theorem reversed_completion_forgotten :
    [1, 0].Perm (List.range 2) ∧
    (Assembly.completed (Scan.ofSource .default) [⟨["a.ts"], [65]⟩, ⟨["b.ts"], [255]⟩] [1, 0]).slots =
      [some (Scan.ofSource .default ⟨["a.ts"], [65]⟩),
        some (Scan.ofSource .default ⟨["b.ts"], [255]⟩)] ∧
    (Assembly.completed (Scan.ofSource .default) [⟨["a.ts"], [65]⟩, ⟨["b.ts"], [255]⟩] [1, 0]).told =
      [⟨1, 2⟩, ⟨2, 2⟩] := by
  have all : [1, 0].Perm (List.range 2) := List.Perm.swap 0 1 []
  obtain ⟨slots, told, same, _⟩ :=
    @completion_order_forgotten .default [⟨["a.ts"], [65]⟩, ⟨["b.ts"], [255]⟩] [1, 0] all
  exact ⟨all, slots, told.trans same⟩

end CloneScan
