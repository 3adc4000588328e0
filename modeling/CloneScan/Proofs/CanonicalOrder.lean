import CloneScan.Proofs.Extension
import CloneScan.Proofs.Independence
import Mathlib.Data.List.Infix

/-! The canonical order of a search. Below every directory what is found stands in one run: the files of
the directory by name, then one run for each directory in it, by their names. With this and with which
files are found, nothing about the result of a search is left open. -/
namespace CloneScan

namespace Node

/-- A place lies below a directory, in it or further down. -/
def Below (dir place : Location) : Prop := dir <+: place ∧ place ≠ dir

instance (dir place : Location) : Decidable (Below dir place) :=
  inferInstanceAs (Decidable (_ ∧ _))

@[simp] theorem below_nil : Below [] place ↔ place ≠ [] := by simp [Below]

@[simp] theorem not_below_nil (dir : Location) : ¬ Below dir [] := by
  rintro ⟨start, other⟩
  exact other (List.prefix_nil.mp start).symm

@[simp] theorem below_cons : Below (a :: dir) (b :: place) ↔ a = b ∧ Below dir place := by
  simp [Below, List.cons_prefix_cons]
  grind

theorem below_iff : Below dir place ↔ ∃ name rest, place = dir ++ name :: rest := by
  induction dir generalizing place with
  | nil => cases place <;> simp
  | cons a dir ih => cases place <;> simp [ih, eq_comm]

theorem precedes_append (dir : Location) :
    Precedes (dir ++ a :: p) (dir ++ b :: q) ↔ Precedes (a :: p) (b :: q) := by
  induction dir with
  | nil => rfl
  | cons name dir ih =>
    cases dir with
    | nil => simp [Precedes]
    | cons => simpa [Precedes] using ih

theorem Precedes.ne_nil (before : Precedes p q) : p ≠ [] ∧ q ≠ [] := by
  constructor <;> rintro rfl <;> simp [Precedes] at before

theorem Below.ne_nil (below : Below dir place) : place ≠ [] := by
  rintro rfl
  exact not_below_nil dir below

/-- Nothing else stands between the places below a directory. -/
theorem Precedes.below_between (first : Precedes p q) (second : Precedes q r) (hp : Below dir p)
    (hr : Below dir r) : Below dir q := by
  fun_induction Precedes p q generalizing dir r with
  | case1 a b => cases dir <;> simp_all
  | case2 => cases dir <;> simp_all
  | case3 a next rest b other more ih =>
    cases dir with
    | nil => simp
    | cons name dir =>
      obtain ⟨rfl, left⟩ := below_cons.mp hp
      obtain ⟨c, r, rfl⟩ := List.exists_cons_of_ne_nil hr.ne_nil
      obtain ⟨rfl, right⟩ := below_cons.mp hr
      obtain ⟨last, tail, rfl⟩ := List.exists_cons_of_ne_nil right.ne_nil
      rw [Precedes] at second
      rcases first with later | ⟨rfl, first⟩
      · rcases second with earlier | ⟨rfl, _⟩
        · exact absurd later (lt_asymm earlier)
        · exact absurd later (lt_irrefl _)
      · rcases second with later | ⟨_, second⟩
        · exact absurd later (lt_irrefl _)
        · exact below_cons.mpr ⟨rfl, ih first second left right⟩
  | case4 => exact first.elim

/-- Elements with a property stand together as soon as nothing else stands between two of them. -/
theorem filter_infix_of_between {R : α → α → Prop} {P : α → Prop} [DecidablePred P] {xs : List α}
    (ordered : xs.Pairwise R) (between : ∀ x y z, R x y → R y z → P x → P z → P y) :
    xs.filter P <:+: xs := by
  have split : ∃ before after, (∀ y ∈ before, ¬ P y) ∧ before ++ xs.filter P ++ after = xs := by
    induction xs with
    | nil => exact ⟨[], [], by simp⟩
    | cons x xs ih =>
      obtain ⟨first, rest⟩ := List.pairwise_cons.mp ordered
      obtain ⟨before, after, others, split⟩ := ih rest
      by_cases holds : P x
      · cases kept : xs.filter P with
        | nil => exact ⟨[], xs, by simp [holds, kept]⟩
        | cons z run =>
          have none : before = [] := by
            -- whatever stood before the run would stand between its first element and `x`
            rw [List.eq_nil_iff_forall_not_mem]
            intro y member
            have last : z ∈ xs.filter P := by simp [kept]
            have hz : P z := of_decide_eq_true (List.mem_filter.mp last).2
            rw [kept, List.append_assoc] at split
            rw [← split, List.pairwise_append] at rest
            have hy : R x y := first y (split ▸ List.mem_append_left _ member)
            exact others y member (between x y z hy (rest.2.2 y member z (by simp)) holds hz)
          exact ⟨[], after, by simp, by simpa [holds, none] using split⟩
      · refine ⟨x :: before, after, ?_, by simpa [holds] using split⟩
        exact List.forall_mem_cons.mpr ⟨holds, others⟩
  obtain ⟨before, after, _, split⟩ := split
  exact ⟨before, after, split⟩

structure LaidOut (dir : Location) (places : List Location) (files directories : List String) :
    Prop where
  files_ordered : files.Pairwise (· < ·)
  directories_ordered : directories.Pairwise (· < ·)
  entered : ∀ name ∈ directories, ∃ place ∈ places, Below (dir ++ [name]) place
  split : places.filter (Below dir) = files.map (fun name => dir ++ [name]) ++
    directories.flatMap fun name => places.filter (Below (dir ++ [name]))

theorem below_concat :
    Below (dir ++ [name]) place ↔ ∃ next rest, place = dir ++ name :: next :: rest := by
  simp [below_iff]

theorem Below.of_concat (below : Below (dir ++ [name]) place) : Below dir place := by
  obtain ⟨next, rest, rfl⟩ := below_concat.mp below
  exact below_iff.mpr ⟨name, next :: rest, rfl⟩

namespace LaidOut

theorem mem_places (laid : LaidOut dir places files directories) (member : name ∈ files) :
    dir ++ [name] ∈ places := by
  have here : dir ++ [name] ∈ places.filter (Below dir) := by
    rw [laid.split]
    exact List.mem_append_left _ (List.mem_map_of_mem member)
  exact (List.mem_filter.mp here).1

theorem entered_cons (laid : LaidOut dir places files directories) (place : Location) :
    ∀ name ∈ directories, ∃ p ∈ place :: places, Below (dir ++ [name]) p := by
  intro name member
  obtain ⟨p, inside, below⟩ := laid.entered name member
  exact ⟨p, List.mem_cons_of_mem _ inside, below⟩

theorem skip (laid : LaidOut dir places files directories) (outside : ¬ Below dir place) :
    LaidOut dir (place :: places) files directories where
  files_ordered := laid.files_ordered
  directories_ordered := laid.directories_ordered
  entered := laid.entered_cons place
  split := by
    have deeper (name : String) : ¬ Below (dir ++ [name]) place := fun below =>
      outside below.of_concat
    simp [outside, deeper, laid.split]

theorem file (laid : LaidOut dir places files directories)
    (first : ∀ place ∈ places, Precedes (dir ++ [name]) place) :
    LaidOut dir ((dir ++ [name]) :: places) (name :: files) directories where
  files_ordered := by
    refine List.pairwise_cons.mpr ⟨fun later member => ?_, laid.files_ordered⟩
    simpa [precedes_append, Precedes] using first _ (laid.mem_places member)
  directories_ordered := laid.directories_ordered
  entered := laid.entered_cons _
  split := by simp [below_iff, laid.split]

theorem no_files (laid : LaidOut dir places files directories)
    (first : ∀ place ∈ places, Precedes (dir ++ name :: next :: rest) place) : files = [] := by
  apply List.eq_nil_iff_forall_not_mem.mpr
  intro later member
  simpa [precedes_append, Precedes] using first _ (laid.mem_places member)

theorem first_directory (laid : LaidOut dir places files directories)
    (first : ∀ place ∈ places, Precedes (dir ++ name :: next :: rest) place)
    (member : later ∈ directories) : name ≤ later := by
  obtain ⟨place, inside, below⟩ := laid.entered later member
  obtain ⟨other, more, rfl⟩ := below_concat.mp below
  have before := first _ inside
  simp only [precedes_append, Precedes] at before
  rcases before with less | ⟨rfl, _⟩
  · exact le_of_lt less
  · exact le_refl _

/-- A directory that is met again is the first one. -/
theorem head_of_known (laid : LaidOut dir places files directories)
    (first : ∀ place ∈ places, Precedes (dir ++ name :: next :: rest) place)
    (known : name ∈ directories) : ∃ others, directories = name :: others := by
  cases directories with
  | nil => cases known
  | cons head others =>
    rcases List.mem_cons.mp known with rfl | behind
    · exact ⟨others, rfl⟩
    · have less := List.rel_of_pairwise_cons laid.directories_ordered behind
      exact absurd less (not_lt_of_ge (laid.first_directory first List.mem_cons_self))

theorem mem_directories (laid : LaidOut dir places files directories) (member : place ∈ places)
    (below : Below (dir ++ [name]) place) : name ∈ directories := by
  have here : place ∈ places.filter (Below dir) :=
    List.mem_filter.mpr ⟨member, decide_eq_true below.of_concat⟩
  obtain ⟨next, rest, rfl⟩ := below_concat.mp below
  rw [laid.split] at here
  rcases List.mem_append.mp here with own | deeper
  · simp at own
  · obtain ⟨other, known, inside⟩ := List.mem_flatMap.mp deeper
    have same : name = other := by simpa [below_concat] using (List.mem_filter.mp inside).2
    exact same ▸ known

/-- One place more leaves the runs of other directories as they are. -/
theorem flatMap_apart {directories : List String} (apart : name ∉ directories)
    (places : List Location) :
    directories.flatMap (fun other =>
        ((dir ++ name :: next :: rest) :: places).filter (Below (dir ++ [other]))) =
      directories.flatMap fun other => places.filter (Below (dir ++ [other])) := by
  apply List.flatMap_congr
  intro other member
  have different : name ≠ other := fun same => apart (same ▸ member)
  simp [below_concat, different]

theorem again (laid : LaidOut dir places [] (name :: directories)) (next : String)
    (rest : Location) :
    LaidOut dir ((dir ++ name :: next :: rest) :: places) [] (name :: directories) where
  files_ordered := laid.files_ordered
  directories_ordered := laid.directories_ordered
  entered := laid.entered_cons _
  split := by
    have apart : name ∉ directories := fun member =>
      lt_irrefl _ (List.rel_of_pairwise_cons laid.directories_ordered member)
    have split := laid.split
    simp only [List.map_nil, List.nil_append, List.flatMap_cons] at split
    simp [below_iff, flatMap_apart apart, split]

theorem enter (laid : LaidOut dir places [] directories)
    (first : ∀ place ∈ places, Precedes (dir ++ name :: next :: rest) place)
    (new : name ∉ directories) :
    LaidOut dir ((dir ++ name :: next :: rest) :: places) [] (name :: directories) where
  files_ordered := laid.files_ordered
  directories_ordered := by
    refine List.pairwise_cons.mpr ⟨fun later member => ?_, laid.directories_ordered⟩
    have different : name ≠ later := fun same => new (same ▸ member)
    exact lt_of_le_of_ne (laid.first_directory first member) different
  entered := by
    refine List.forall_mem_cons.mpr ⟨⟨_, List.mem_cons_self, ?_⟩, laid.entered_cons _⟩
    exact below_concat.mpr ⟨next, rest, rfl⟩
  split := by
    have missing : places.filter (Below (dir ++ [name])) = [] := by
      simpa using fun place member below => new (laid.mem_directories member below)
    simp [below_iff, flatMap_apart new, missing, laid.split]

end LaidOut

/-- How a search lists places: below every directory in one run, its files first and by name, then one
run for each of its directories, by their names. -/
structure Canonical (places : List Location) : Prop where
  run : ∀ dir, places.filter (Below dir) <:+: places
  laidOut : ∀ dir, ∃ files directories, LaidOut dir places files directories

theorem exists_laidOut (dir : Location) (ordered : places.Pairwise Precedes) :
    ∃ files directories, LaidOut dir places files directories := by
  induction places with
  | nil => exact ⟨[], [], by simp, by simp, by simp, by simp⟩
  | cons place places ih =>
    obtain ⟨first, rest⟩ := List.pairwise_cons.mp ordered
    obtain ⟨files, directories, laid⟩ := ih rest
    by_cases inside : Below dir place
    · obtain ⟨name, deeper, rfl⟩ := below_iff.mp inside
      cases deeper with
      | nil => exact ⟨name :: files, directories, laid.file first⟩
      | cons next deeper =>
        obtain rfl := laid.no_files first
        by_cases known : name ∈ directories
        · obtain ⟨others, rfl⟩ := laid.head_of_known first known
          exact ⟨[], name :: others, laid.again next deeper⟩
        · exact ⟨[], name :: directories, laid.enter first known⟩
    · exact ⟨files, directories, laid.skip inside⟩

theorem canonical_of_ordered (ordered : places.Pairwise Precedes) : Canonical places where
  run _ := filter_infix_of_between ordered fun _ _ _ first second hp hr =>
    first.below_between second hp hr
  laidOut dir := exists_laidOut dir ordered

end Node

namespace Discovery

theorem lowerExtensions_texts (extensions : List String) :
    lowerExtensions (extensions.map .text) = .ok (extensions.map fun e => Text.lower e.toList) := by
  induction extensions with
  | nil => rfl
  | cons e extensions ih => simp [lowerExtensions, ih, Except.map]

theorem excludedNames_texts (excluded : List String) :
    excludedNames (excluded.map .text) = .ok excluded := by
  induction excluded with
  | nil => rfl
  | cons name excluded ih => simp [excludedNames, ih, Except.map]

theorem isWanted_iff {extensions : List String} {name : String} :
    isWanted (extensions.map fun e => Text.lower e.toList) name = true ↔
      ∃ ext, Path.HasExtension name.toList ext ∧
        ∃ e ∈ extensions, Text.lower ext = Text.lower e.toList := by
  simp [isWanted, Path.hasExtension_iff, eq_comm]

/-- A search finds exactly the files with one of the extensions, whatever their capitals, on whose way
no directory is excluded. It finds each of them once and lists them in the canonical order. -/
theorem find_canonical {d : Disk} {root : Path} {top : Node} (rooted : d.Rooted root top)
    (extensions excluded : List String) :
    ∃ found, find d root (extensions.map .text) (excluded.map .text) = .ok found ∧
      (∀ place content, ⟨place, content⟩ ∈ found ↔
        top.fileAt? place = some content ∧ (∀ dir ∈ place.dropLast, dir ∉ excluded) ∧
          ∃ name ∈ place.getLast?, ∃ ext, Path.HasExtension name.toList ext ∧
            ∃ e ∈ extensions, Text.lower ext = Text.lower e.toList) ∧
      (found.map (·.place)).Nodup ∧ Node.Canonical (found.map (·.place)) := by
  refine ⟨top.sources (isWanted (extensions.map fun e => Text.lower e.toList))
    fun name => !excluded.contains name, ?_, fun place content => ?_, ?_, ?_⟩
  · rw [find_rooted rooted, lowerExtensions_texts, excludedNames_texts]
    rfl
  · rw [Node.mem_sources rooted.wellNamed]
    constructor
    · rintro ⟨⟨⟨name, last, chosen⟩, entered⟩, held⟩
      refine ⟨held, fun dir member => ?_, name, last, isWanted_iff.mp chosen⟩
      simpa using entered dir member
    · rintro ⟨held, entered, name, last, chosen⟩
      refine ⟨⟨⟨name, last, isWanted_iff.mpr chosen⟩, fun dir member => ?_⟩, held⟩
      simpa using entered dir member
  · exact Node.places_nodup _ _ _ rooted.wellNamed
  · apply Node.canonical_of_ordered
    exact List.pairwise_map.mpr (Node.sources_ordered rooted.wellNamed)

/-- Names with dots in odd places, a directory that is called like a source file, and an excluded
directory that holds one. -/
theorem dotted_find_canonical :
    let top : Node := .directory [
      ("b.ts", .directory [("x.TS", .file [1]), (".ts", .file [2])]), ("..a.b.ts", .file [3]),
      ("ts", .file [4]), ("dist", .directory [("c.ts", .file [5])])]
    Disk.Rooted { top } Path.here top ∧
      ∃ found, find { top } Path.here [.text ".Ts"] [.text "dist"] = .ok found ∧
        ⟨["..a.b.ts"], [3]⟩ ∈ found ∧ ⟨["b.ts", "x.TS"], [1]⟩ ∈ found ∧
        (∀ content, ⟨["b.ts", ".ts"], content⟩ ∉ found) ∧
        (∀ content, ⟨["dist", "c.ts"], content⟩ ∉ found) ∧
        Node.Canonical (found.map (·.place)) := by
  intro top
  have names : ∀ name ∈ ["b.ts", "x.TS", ".ts", "..a.b.ts", "ts", "dist", "c.ts"], name ≠ "" ∧
      (name ≠ "." ∧ name ≠ "..") ∧ '/' ∉ name.toList ∧ '\x00' ∉ name.toList := by decide
  have valid : ∀ name ∈ ["b.ts", "x.TS", ".ts", "..a.b.ts", "ts", "dist", "c.ts"],
      Node.IsName name := by
    intro name member
    obtain ⟨filled, apart, noSlash, noNull⟩ := names name member
    exact ⟨filled, apart, noSlash, noNull⟩
  have rooted : Disk.Rooted { top } Path.here top :=
    ⟨Disk.node?_here { top } rfl, rfl, by simp [top, Node.WellNamed, Node.WellNamedBelow, valid]⟩
  obtain ⟨found, search, files, _, canonical⟩ := find_canonical rooted [".Ts"] ["dist"]
  have kinds : Path.extensionOf "..a.b.ts".toList = ".ts".toList ∧
      Path.extensionOf "x.TS".toList = ".TS".toList ∧ Path.extensionOf ['.', 't', 's'] = [] := by
    decide
  have lowered : Text.lower ".ts".toList = Text.lower ".Ts".toList ∧
      Text.lower ".TS".toList = Text.lower ".Ts".toList ∧
      Text.lower [] ≠ Text.lower ".Ts".toList := by decide
  simp only [Path.hasExtension_iff] at files
  refine ⟨rooted, found, search, ?_, ?_, fun content => ?_, fun content => ?_, canonical⟩
  · exact (files _ _).mpr ⟨rfl, by simp, _, rfl, _, kinds.1, by simpa using lowered.1⟩
  · exact (files _ _).mpr ⟨rfl, by simp, _, rfl, _, kinds.2.1, by simpa using lowered.2.1⟩
  · simpa [files, kinds.2.2] using fun _ => lowered.2.2
  · simp [files]

end Discovery

end CloneScan
