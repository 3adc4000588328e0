import CloneScan.Proofs.Completion
import CloneScan.Proofs.Search
import CloneScan.Proofs.Specimen

/-! What is stored of a tree depends on its files alone. Neither the path to the tree nor the order in
which its directories list their entries leaves a trace, and of what a file holds only its scan
counts. -/
namespace CloneScan

structure Disk.Rooted (d : Disk) (root : Path) (top : Node) : Prop where
  found : d.node? root = some top
  directory : top.isDirectory = true
  wellNamed : top.WellNamed

theorem Disk.Rooted.isDirectory {d : Disk} {root : Path} {top : Node} (rooted : d.Rooted root top) :
    d.isDirectory root = .ok true :=
  isDirectory_of_node? rooted.found rooted.directory

theorem Disk.copies_rooted (n m : Nat) : (copies n m).Rooted Path.here (copies n m).top :=
  ⟨node?_here (copies n m) rfl, rfl, copies_wellNamed n m⟩

/-- A search from a root is a search of the tree there, whatever the root is called. -/
theorem Discovery.find_rooted {d : Disk} {root : Path} {top : Node} (rooted : d.Rooted root top)
    (extensions excluded : List Value) :
    find d root extensions excluded = do
      let wanted ← lowerExtensions extensions
      let names ← excludedNames excluded
      return top.sources (isWanted wanted) fun name => !names.contains name := by
  rw [find, Disk.hasNull_of_isDirectory rooted.isDirectory, rooted.found]
  rfl

namespace Index

variable {settings : Settings} {d e : Disk} {p q : Path} {m n : Node}

theorem ofTree_rooted (rooted : d.Rooted p m) :
    ofTree settings d p = do
      let wanted ← Discovery.lowerExtensions settings.extensions
      let names ← Discovery.excludedNames settings.excludedDirs
      return ofSources settings <|
        m.sources (Discovery.isWanted wanted) fun name => !names.contains name := by
  rw [ofTree, rooted.isDirectory, Discovery.find_rooted rooted]
  cases Discovery.lowerExtensions settings.extensions with
  | error f => rfl
  | ok wanted =>
    cases Discovery.excludedNames settings.excludedDirs with
    | error f => rfl
    | ok names => rfl

theorem ofSources_congr {R : List UInt8 → List UInt8 → Prop} {sources others : List Node.Source}
    (alike : ∀ place old new, R old new →
      Scan.ofSource settings ⟨place, old⟩ = Scan.ofSource settings ⟨place, new⟩)
    (related : List.Forall₂ (fun s t => s.place = t.place ∧ R s.content t.content) sources others) :
    ofSources settings sources = ofSources settings others := by
  have scans : List.Forall₂ (fun s t => Scan.ofSource settings s = Scan.ofSource settings t)
      sources others := by
    refine related.imp ?_
    rintro ⟨place, old⟩ ⟨other, new⟩ ⟨rfl, held⟩
    exact alike place old new held
  rw [← List.forall₂_map_right_iff, ← List.forall₂_map_left_iff, List.forall₂_eq_eq_eq] at scans
  rw [ofSources_eq, ofSources_eq, scans]

/-- Trees with related files at the same places have one index, as long as files so related have one
scan. -/
theorem ofTree_congr {R : List UInt8 → List UInt8 → Prop} (left : d.Rooted p m)
    (right : e.Rooted q n) (related : Node.FilesRelated R m n)
    (alike : ∀ place old new, R old new →
      Scan.ofSource settings ⟨place, old⟩ = Scan.ofSource settings ⟨place, new⟩) :
    ofTree settings d p = ofTree settings e q := by
  rw [ofTree_rooted left, ofTree_rooted right]
  cases Discovery.lowerExtensions settings.extensions with
  | error f => rfl
  | ok wanted =>
    cases Discovery.excludedNames settings.excludedDirs with
    | error f => rfl
    | ok names =>
      have found := Node.sources_related left.wellNamed right.wellNamed related
        (Discovery.isWanted wanted) fun name => !names.contains name
      exact congrArg Except.ok (ofSources_congr alike found)

end Index

namespace Analysis

/-- A run over a tree reports on the files that a search of it finds. -/
theorem run_rooted {settings : Settings} {d : Disk} {p : Path} {m : Node} (rooted : d.Rooted p m)
    {wanted : List (List Char)} {excluded : List String}
    (lowered : Discovery.lowerExtensions settings.extensions = .ok wanted)
    (names : Discovery.excludedNames settings.excludedDirs = .ok excluded) (shown : String) :
    run settings d p shown = .ok (ofIndex settings shown (Index.ofSources settings
      (m.sources (Discovery.isWanted wanted) fun name => !excluded.contains name))) := by
  rw [run, Index.ofTree_rooted rooted, lowered, names]
  rfl

/-- What a run leads to in the end: the text of its artifact, or why there is none. -/
def outcome (settings : Settings) (d : Disk) (root : Path) (shown : String) :
    Except Discovery.Fault (Except Report.Fault String) :=
  (run settings d root shown).map fun a => a.report.render .json settings

/-- Two runs that come to one artifact: to one text of it, or to none for one cause. Only settings
that no search can use keep them from an artifact. -/
structure SameArtifact (settings : Settings) (d e : Disk) (p q : Path) (shown other : String) :
    Prop where
  outcome : outcome settings d p shown = outcome settings e q other
  reported : settings.Searchable → ∃ a b, run settings d p shown = .ok a ∧
    run settings e q other = .ok b ∧ a.report.artifact settings = b.report.artifact settings

/-- How a report spells its root is not stored, so equal indexes have equal artifacts. -/
theorem sameArtifact_of_index {settings : Settings} {d e : Disk} {p q : Path} {m : Node}
    (rooted : d.Rooted p m) (same : Index.ofTree settings d p = Index.ofTree settings e q)
    (shown other : String) : SameArtifact settings d e p q shown other where
  outcome := by
    rw [Analysis.outcome, Analysis.outcome, run, run, same]
    cases Index.ofTree settings e q with
    | error f => rfl
    | ok index => rfl
  reported searchable := by
    obtain ⟨sources, found⟩ := Discovery.find_ok searchable rooted.isDirectory
    have left : Index.ofTree settings d p = .ok (Index.ofSources settings sources) := by
      rw [Index.ofTree, rooted.isDirectory, found]
      rfl
    rw [run, run, ← same, left]
    exact ⟨_, _, rfl, rfl, rfl⟩

end Analysis

theorem Analysis.copies_filled {a : Analysis} {shown : String}
    (run : run .default (Disk.copies 5 5) Path.here shown = .ok a) : a.report.groups ≠ [] := by
  obtain ⟨b, again, g, grouped, _⟩ :=
    Disk.copies_reported ⟨5, by decide⟩ ⟨5, by decide⟩ (by decide) (by decide) shown
  obtain rfl : a = b := Except.ok.inj (run.symm.trans again)
  exact List.ne_nil_of_mem grouped

/-- Two roots with the same files below them come to one artifact, wherever they are, whatever they
are called and however their directories list their entries. -/
theorem files_determine_artifact {settings : Settings} {d e : Disk} {p q : Path} {m n : Node}
    (left : d.Rooted p m) (right : e.Rooted q n)
    (same : ∀ place, m.fileAt? place = n.fileAt? place) (shown other : String) :
    Analysis.SameArtifact settings d e p q shown other := by
  have related : Node.FilesRelated (· = ·) m n := by
    intro place
    rw [same place]
    cases n.fileAt? place with
    | none => exact .none
    | some content => exact .some rfl
  refine Analysis.sameArtifact_of_index left (Index.ofTree_congr left right related ?_) shown other
  rintro place old new rfl
  rfl

def Node.reversed : Node → Node
  | file content => file content
  | directory entries => directory entries.reverse

def Disk.burying (n : Node) : Disk where
  top := .directory [("build", .directory [("dist", n)])]

def Path.buried : Path := ⟨.root, ["build", "dist"]⟩

theorem Disk.burying_rooted {n : Node} (directory : n.isDirectory = true) (valid : n.WellNamed) :
    (burying n).Rooted Path.buried n := by
  refine ⟨?_, directory, valid⟩
  have located : (burying n).locate Path.buried = .ok ["build", "dist"] := by
    rw [locate, if_neg (by decide), if_neg (by decide)]
    rfl
  rw [node?, located]
  exact Node.at?_nil n

/-- Two copies in the working directory, and the same two files listed the other way round at a path
that consists of excluded names. -/
theorem buried_files_determine_artifact :
    let top := (Disk.copies 5 5).top
    (Disk.copies 5 5).Rooted Path.here top ∧
    (Disk.burying top.reversed).Rooted Path.buried top.reversed ∧
    (∀ place, top.fileAt? place = top.reversed.fileAt? place) ∧
    Analysis.SameArtifact .default (Disk.copies 5 5) (Disk.burying top.reversed) Path.here
      Path.buried "." "/build/dist" ∧
    ∃ a, Analysis.run .default (Disk.copies 5 5) Path.here "." = .ok a ∧ a.report.groups ≠ [] := by
  intro top
  have left := Disk.copies_rooted 5 5
  have valid : top.reversed.WellNamed :=
    Node.wellNamed_perm (List.reverse_perm _).symm left.wellNamed
  have right := Disk.burying_rooted rfl valid
  have same : ∀ place, top.fileAt? place = top.reversed.fileAt? place :=
    Node.fileAt?_perm (List.reverse_perm _).symm left.wellNamed
  have artifact := @files_determine_artifact .default _ _ _ _ _ _ left right same "." "/build/dist"
  obtain ⟨a, _, run, _⟩ := artifact.reported Settings.default_searchable
  exact ⟨left, right, same, artifact, a, run, Analysis.copies_filled run⟩

end CloneScan
