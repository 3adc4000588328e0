import CloneScan.Proofs.Results
import CloneScan.SettingsFile
import Mathlib.Data.List.Induction
import Mathlib.Data.List.Infix

/-! Which settings file counts for a directory. The search asks one directory after the other, each time
the one above, and stops at the first that has a settings file. So the nearest directory wins whatever
the name of its file is, and names are compared within one directory only. That is what the tree has to
say, and what the search finds as long as it can ask: a candidate whose path is too long ends it with a
fault, where an answer was promised. -/
namespace CloneScan.SettingsFile

open Disk

variable {top other : Node} {place dir found : Location} {name : String}

/-! ## One directory -/

def Holds (top : Node) (dir : Location) (name : String) : Prop :=
  (top.at? (dir ++ [name])).any Node.isFile = true

instance : Decidable (Holds top dir name) := inferInstanceAs (Decidable (_ = true))

/-- A directory has a settings file, under one of the two names or under both. -/
def Configures (top : Node) (dir : Location) : Prop := ∃ name ∈ names, Holds top dir name

instance : Decidable (Configures top dir) :=
  inferInstanceAs (Decidable (∃ name ∈ names, Holds top dir name))

/-- The name of the settings file of a directory that has one. -/
def preferred (top : Node) (dir : Location) : String :=
  if Holds top dir ".cdfrc" then ".cdfrc" else ".cdf.toml"

def within (dir : Location) : List Location := names.map fun name => dir ++ [name]

def own (top : Node) (dir : Location) : Option Location :=
  (within dir).find? fun candidate => (top.at? candidate).any Node.isFile

theorem own_eq (top : Node) (dir : Location) :
    own top dir = if Configures top dir then some (dir ++ [preferred top dir]) else none := by
  by_cases first : Holds top dir ".cdfrc"
  · have configures : Configures top dir := ⟨".cdfrc", List.mem_cons_self, first⟩
    rw [if_pos configures, preferred, if_pos first]
    exact List.find?_cons_of_pos first
  · have skipped : own top dir =
        [dir ++ [".cdf.toml"]].find? fun candidate => (top.at? candidate).any Node.isFile :=
      List.find?_cons_of_neg first
    by_cases second : Holds top dir ".cdf.toml"
    · have configures : Configures top dir := ⟨".cdf.toml", by decide, second⟩
      rw [if_pos configures, preferred, if_neg first, skipped]
      exact List.find?_cons_of_pos second
    · have bare : ¬ Configures top dir := by
        rintro ⟨name, known, held⟩
        rcases List.mem_pair.mp known with rfl | rfl
        · exact first held
        · exact second held
      rw [if_neg bare, skipped]
      exact List.find?_cons_of_neg second

/-! ## The way up -/

theorem upward_root : upward [] = [[]] := rfl

theorem upward_concat (dir : Location) (name : String) :
    upward (dir ++ [name]) = (dir ++ [name]) :: upward dir := by
  have shorter : ∀ n ∈ (List.range (dir.length + 1)).reverse, (dir ++ [name]).take n = dir.take n := by
    intro n member
    have bound := List.mem_range.mp (List.mem_reverse.mp member)
    exact List.take_append_of_le_length (by omega)
  rw [upward, List.length_append, List.length_singleton, List.range_succ, List.reverse_concat,
    List.map_cons, List.map_congr_left shorter, List.take_of_length_le (by simp)]
  rfl

theorem candidates_root : candidates [] = within [] := by
  rw [candidates, upward_root, List.flatMap_singleton, within]

theorem candidates_concat (dir : Location) (name : String) :
    candidates (dir ++ [name]) = within (dir ++ [name]) ++ candidates dir := by
  rw [candidates, upward_concat, List.flatMap_cons, candidates, within]

/-- Only directories on the way to the top have candidates. -/
theorem above_of_mem_candidates {candidate : Location} (member : candidate ∈ candidates place) :
    ∃ dir, dir <+: place ∧ ∃ name ∈ names, candidate = dir ++ [name] := by
  induction place using List.reverseRecOn with
  | nil =>
    rw [candidates_root] at member
    obtain ⟨name, known, rfl⟩ := List.mem_map.mp member
    exact ⟨[], List.prefix_rfl, name, known, rfl⟩
  | append_singleton place last ih =>
    rw [candidates_concat] at member
    rcases List.mem_append.mp member with member | member
    · obtain ⟨name, known, rfl⟩ := List.mem_map.mp member
      exact ⟨_, List.prefix_rfl, name, known, rfl⟩
    · obtain ⟨dir, above, rest⟩ := ih member
      exact ⟨dir, above.trans (List.prefix_append place [last]), rest⟩

/-! ## What the tree says -/

/-- The first candidate that is a file, whether or not the files can be asked for it. -/
def nearest (top : Node) (place : Location) : Option Location :=
  (candidates place).find? fun candidate => (top.at? candidate).any Node.isFile

theorem nearest_root (top : Node) : nearest top [] = own top [] := by
  rw [nearest, candidates_root, own]

theorem nearest_concat (top : Node) (dir : Location) (name : String) :
    nearest top (dir ++ [name]) = (own top (dir ++ [name])).or (nearest top dir) := by
  rw [nearest, candidates_concat, List.find?_append]
  rfl

/-- Of a directory and those above it, the deepest that has a settings file. -/
structure Governs (top : Node) (place dir : Location) : Prop where
  above : dir <+: place
  configures : Configures top dir
  deepest : ∀ upper, upper <+: place → Configures top upper → upper.length ≤ dir.length

theorem Governs.self (configures : Configures top place) : Governs top place place where
  above := List.prefix_rfl
  configures := configures
  deepest _ above _ := above.length_le

theorem Governs.unique (left : Governs top place dir) (right : Governs top place found) :
    dir = found := by
  have level : dir.length = found.length :=
    Nat.le_antisymm (right.deepest dir left.above left.configures)
      (left.deepest found right.above right.configures)
  exact (List.prefix_of_prefix_length_le left.above right.above level.le).eq_of_length level

/-- A directory without a settings file leaves the matter to those above it. -/
theorem governs_concat (bare : ¬ Configures top (place ++ [name])) :
    Governs top (place ++ [name]) dir ↔ Governs top place dir := by
  have higher {upper : Location} (above : upper <+: place ++ [name])
      (configures : Configures top upper) : upper <+: place := by
    rcases List.prefix_concat_iff.mp above with rfl | above
    · exact absurd configures bare
    · exact above
  have lower {upper : Location} (above : upper <+: place) : upper <+: place ++ [name] :=
    above.trans (List.prefix_append place [name])
  constructor
  · intro governs
    exact ⟨higher governs.above governs.configures, governs.configures,
      fun upper above => governs.deepest upper (lower above)⟩
  · intro governs
    exact ⟨lower governs.above, governs.configures,
      fun upper above configures => governs.deepest upper (higher above configures) configures⟩

/-- A directory that has a settings file governs itself. -/
theorem governs_of_configures (configures : Configures top place) :
    (∃ dir, Governs top place dir ∧ found = dir ++ [preferred top dir]) ↔
      found = place ++ [preferred top place] := by
  constructor
  · rintro ⟨dir, governs, rfl⟩
    rw [governs.unique (.self configures)]
  · rintro rfl
    exact ⟨place, .self configures, rfl⟩

/-- What counts is the preferred file of the deepest directory that has one. -/
theorem nearest_eq_some_iff :
    nearest top place = some found ↔
      ∃ dir, Governs top place dir ∧ found = dir ++ [preferred top dir] := by
  induction place using List.reverseRecOn with
  | nil =>
    rw [nearest_root, own_eq]
    split
    next configures =>
      rw [governs_of_configures configures, Option.some.injEq, eq_comm]
    next bare =>
      refine iff_of_false nofun ?_
      rintro ⟨dir, governs, _⟩
      have root := List.prefix_nil.mp governs.above
      exact bare (root ▸ governs.configures)
  | append_singleton place name ih =>
    rw [nearest_concat, own_eq]
    split
    next configures =>
      rw [governs_of_configures configures, Option.some_or, Option.some.injEq, eq_comm]
    next bare => simp only [Option.none_or, ih, governs_concat bare]

theorem nearest_eq_none_iff :
    nearest top place = none ↔ ∀ dir, dir <+: place → ¬ Configures top dir := by
  induction place using List.reverseRecOn with
  | nil => simp [nearest_root, own_eq]
  | append_singleton place name ih =>
    simp only [nearest_concat, Option.or_eq_none_iff, ih, own_eq, List.prefix_concat_iff,
      forall_eq_or_imp, ite_eq_right_iff, reduceCtorEq, imp_false]

theorem candidate_of_nearest (nearby : nearest top place = some found) : found ∈ candidates place :=
  List.mem_of_find?_eq_some nearby

/-! ## Asking for a candidate -/

section Asking

variable {d e : Disk} {candidate first : Location} {places rest : List Location}

/-- A row of names leads to their place, unless nothing stands there or a name is too long. -/
theorem walk_names {parts : List String} (straight : ".." ∉ parts)
    (short : walk top place parts ≠ .error .nameTooLong) :
    walk top place parts = .ok (place ++ parts) ∨
      (∃ cause, walk top place parts = .error cause) ∧ top.at? (place ++ parts) = none := by
  induction parts generalizing place with
  | nil => exact .inl (by rw [walk, List.append_nil])
  | cons part rest ih =>
    rw [List.mem_cons, not_or] at straight
    rw [walk] at short ⊢
    cases stands : top.at? place with
    | none => exact .inr ⟨⟨.notFound, rfl⟩, by rw [Node.at?_append, stands, Option.bind_none]⟩
    | some n =>
      cases n with
      | file content => exact .inr ⟨⟨.notDirectory, rfl⟩, by rw [Node.at?_append, stands]; rfl⟩
      | directory entries =>
        simp only [stands, step, if_neg (Ne.symm straight.1)] at short ⊢
        split at short
        · contradiction
        next fits =>
          have below := ih straight.2 short
          rw [List.append_assoc] at below
          rwa [if_neg fits]

/-- To ask for a location is to ask for its path. -/
theorem isFileAt_eq (straight : ".." ∉ place) (clean : (Path.mk .root place).hasNull = false) :
    d.isFileAt place =
      (d.isFile ⟨.root, place⟩).mapError fun f => { f with path := .ofText (d.absolute place) } := by
  rw [isFileAt, isFile, look]
  split
  · rfl
  next askable =>
    -- Nothing is left that could keep the path from being followed, so the names are walked down.
    have fits : ¬ longestPath < (Path.mk .root place).text.utf8ByteSize := by
      intro long
      exact askable (by rw [locate, if_neg (by simp [clean]), if_pos long])
    have walked : d.locate ⟨.root, place⟩ = walk d.top [] place := by
      rw [locate, if_neg (by simp [clean]), if_neg fits]
    rw [walked] at askable
    rw [node?, walked]
    rcases walk_names straight askable with leads | ⟨⟨cause, astray⟩, absent⟩
    · rw [leads]
      rfl
    · rw [List.nil_append] at absent
      rw [astray, absent]
      rfl

theorem utf8ByteSize_text (part : String) (parts : List String) :
    (Path.mk .root (part :: parts)).text.utf8ByteSize =
      (part :: parts).foldr (fun name size => name.utf8ByteSize + 1 + size) 0 := by
  have spelled : (Path.mk .root (part :: parts)).text = "/" ++ "/".intercalate (part :: parts) := rfl
  have slash : "/".utf8ByteSize = 1 := rfl
  rw [spelled, String.utf8ByteSize_append, slash]
  induction parts generalizing part with
  | nil => rw [String.intercalate_singleton, List.foldr_cons, List.foldr_nil, Nat.add_comm]
  | cons next rest ih =>
    rw [String.intercalate_cons_cons, String.utf8ByteSize_append, String.utf8ByteSize_append, slash,
      List.foldr_cons, ← ih next rfl]
    omega

/-- A candidate that the search comes to, since none before it is a file. -/
def Asked (top : Node) (places : List Location) (candidate : Location) : Prop :=
  ∃ before, before ++ [candidate] <+: places ∧
    ∀ earlier ∈ before, (top.at? earlier).any Node.isFile = false

theorem not_asked_nil : ¬ Asked top [] candidate := by
  rintro ⟨before, front, _⟩
  simp at front

theorem asked_cons :
    Asked top (first :: rest) candidate ↔
      candidate = first ∨ (top.at? first).any Node.isFile = false ∧ Asked top rest candidate := by
  constructor
  · rintro ⟨_ | ⟨next, before⟩, front, passed⟩
    · exact .inl (List.cons_prefix_cons.mp front).1
    · obtain ⟨rfl, inside⟩ := List.cons_prefix_cons.mp front
      obtain ⟨here, later⟩ := List.forall_mem_cons.mp passed
      exact .inr ⟨here, before, inside, later⟩
  · rintro (rfl | ⟨here, before, front, passed⟩)
    · exact ⟨[], by simp, by simp⟩
    · exact ⟨first :: before, List.cons_prefix_cons.mpr ⟨rfl, front⟩,
        List.forall_mem_cons.mpr ⟨here, passed⟩⟩

theorem isFileAt_eq_error (tooLong : d.locate ⟨.root, place⟩ = .error .nameTooLong) :
    d.isFileAt place = .error ⟨.nameTooLong, .ofText (d.absolute place), none⟩ := by
  rw [isFileAt, tooLong]

theorem isFileAt_eq_ok (askable : d.locate ⟨.root, place⟩ ≠ .error .nameTooLong) :
    d.isFileAt place = .ok ((d.top.at? place).any Node.isFile) := by
  rw [isFileAt]
  split
  · contradiction
  · rfl

/-- The search answers exactly if no candidate that it comes to is too long, and then by the tree. -/
theorem findM?_isFileAt {found : Option Location} :
    places.findM? d.isFileAt = .ok found ↔
      (∀ candidate, Asked d.top places candidate →
        d.locate ⟨.root, candidate⟩ ≠ .error .nameTooLong) ∧
      places.find? (fun candidate => (d.top.at? candidate).any Node.isFile) = found := by
  induction places with
  | nil => simp [List.findM?, not_asked_nil, pure, Except.pure]
  | cons first rest ih =>
    rw [List.findM?, List.find?_cons]
    by_cases tooLong : d.locate ⟨.root, first⟩ = .error .nameTooLong
    · -- The first candidate is always asked for, so one that is too long spoils both sides.
      rw [isFileAt_eq_error tooLong]
      constructor
      · intro answer
        cases answer
      · rintro ⟨short, _⟩
        exact absurd tooLong (short first (asked_cons.mpr (.inl rfl)))
    · rw [isFileAt_eq_ok tooLong, ok_bind]
      simp only [asked_cons, forall_eq_or_imp]
      cases stands : (d.top.at? first).any Node.isFile with
      | true => simp [tooLong, pure, Except.pure]
      | false => simp [tooLong, ih]

/-- The answer depends on the regular files alone, and on the paths that are too long. -/
theorem isFileAt_congr (named : e.topName = d.topName)
    (alike : (e.top.at? place).any Node.isFile = (d.top.at? place).any Node.isFile)
    (long : e.locate ⟨.root, place⟩ = .error .nameTooLong ↔
      d.locate ⟨.root, place⟩ = .error .nameTooLong) : e.isFileAt place = d.isFileAt place := by
  by_cases tooLong : d.locate ⟨.root, place⟩ = .error .nameTooLong
  · rw [isFileAt_eq_error tooLong, isFileAt_eq_error (long.mpr tooLong), absolute, absolute, named]
  · rw [isFileAt_eq_ok tooLong, isFileAt_eq_ok (mt long.mp tooLong), alike]

end Asking

/-! ## The search -/

variable {d : Disk} {start : Path}

/-- The files can be asked for the settings of a directory: no null character stands in its path, and
no candidate that the search comes to has a name or a path that is too long. -/
def Askable (d : Disk) (start : Path) : Prop :=
  start.hasNull = false ∧ ∀ candidate, Asked d.top (candidates (d.resolve start)) candidate →
    d.locate ⟨.root, candidate⟩ ≠ .error .nameTooLong

/-- Where it can ask, the search finds what the tree says. -/
theorem search_eq_ok_iff {found : Option Location} :
    search d start = .ok found ↔
      Askable d start ∧ nearest d.top (d.resolve start) = found := by
  rw [search, Askable]
  cases start.hasNull with
  | true => simp
  | false =>
    rw [if_neg Bool.false_ne_true, searchFrom, findM?_isFileAt, nearest]
    simp only [true_and]

theorem search_eq_error_iff : (∃ f, search d start = .error f) ↔ ¬ Askable d start := by
  cases answer : search d start with
  | ok found => simp [(search_eq_ok_iff.mp answer).1]
  | error f =>
    refine iff_of_true ⟨f, rfl⟩ fun askable => ?_
    rw [search_eq_ok_iff.mpr ⟨askable, rfl⟩] at answer
    cases answer

/-- One step of the search: a directory without a settings file is left for the one above, and at the
top, which is its own parent, the search is over. -/
theorem searchFrom_step (d : Disk) (dir : Location) :
    searchFrom d dir = (do
      match ← (within dir).findM? d.isFileAt with
      | some found => return some found
      | none => if dir.dropLast = dir then return none else searchFrom d dir.dropLast) := by
  induction dir using List.reverseRecOn with
  | nil =>
    rw [searchFrom, candidates_root]
    rcases (within []).findM? d.isFileAt with f | _ | found <;> rfl
  | append_singleton dir name =>
    rw [searchFrom, candidates_concat, findM?_append, List.dropLast_concat, if_neg (by simp)]
    rcases (within (dir ++ [name])).findM? d.isFileAt with f | _ | found <;> rfl

theorem search_congr {other : Node}
    (alike : ∀ dir, dir <+: d.resolve start → ∀ name ∈ names,
      (Holds other dir name ↔ Holds d.top dir name) ∧
      ({ d with top := other }.locate ⟨.root, dir ++ [name]⟩ = .error .nameTooLong ↔
        d.locate ⟨.root, dir ++ [name]⟩ = .error .nameTooLong)) :
    search { d with top := other } start = search d start := by
  have resolved : { d with top := other }.resolve start = d.resolve start := rfl
  rw [search, search, resolved, searchFrom, searchFrom, findM?_congr]
  intro candidate member
  obtain ⟨dir, above, name, known, rfl⟩ := above_of_mem_candidates member
  obtain ⟨held, long⟩ := alike dir above name known
  exact isFileAt_congr rfl (Bool.eq_iff_iff.mpr held) long

/-- As long as the files can be asked, the search finds nothing exactly if neither the directory nor any
above it has a settings file, and otherwise the preferred file of the deepest of those that have one. If
they cannot be asked there is a fault. Only regular files make a difference, and paths that are too long;
the way leads up directory by directory and ends at the top, and each candidate is asked for by its
path. -/
theorem search_settings_file (d : Disk) (start : Path) :
    (search d start = .ok none ↔
      Askable d start ∧ ∀ dir, dir <+: d.resolve start → ¬ Configures d.top dir) ∧
    (∀ found, search d start = .ok (some found) ↔
      Askable d start ∧
        ∃ dir, Governs d.top (d.resolve start) dir ∧ found = dir ++ [preferred d.top dir]) ∧
    ((∃ f, search d start = .error f) ↔ ¬ Askable d start) ∧
    (∀ other, (∀ dir, dir <+: d.resolve start → ∀ name ∈ names,
        (Holds other dir name ↔ Holds d.top dir name) ∧
        ({ d with top := other }.locate ⟨.root, dir ++ [name]⟩ = .error .nameTooLong ↔
          d.locate ⟨.root, dir ++ [name]⟩ = .error .nameTooLong)) →
      search { d with top := other } start = search d start) ∧
    (∀ dir, searchFrom d dir = (do
      match ← (within dir).findM? d.isFileAt with
      | some found => return some found
      | none => if dir.dropLast = dir then return none else searchFrom d dir.dropLast)) ∧
    ∀ place, ".." ∉ place → (Path.mk .root place).hasNull = false →
      d.isFileAt place =
        (d.isFile ⟨.root, place⟩).mapError fun f => { f with path := .ofText (d.absolute place) } := by
  refine ⟨?_, fun found => ?_, search_eq_error_iff, fun _ => search_congr, searchFrom_step d,
    fun _ => isFileAt_eq⟩
  · rw [search_eq_ok_iff, nearest_eq_none_iff]
  · rw [search_eq_ok_iff, nearest_eq_some_iff]

/-- Settings files at the top and below it. The one below has the name that comes second, and a
directory that has the first name stands beside it. -/
def layered : Disk := { top := .directory [
  (".cdfrc", .file []),
  ("a", .directory [(".cdfrc", .directory [("b", .directory [])]), (".cdf.toml", .file [])])] }

/-- From within that directory the search goes past it, as if it were not there, and past the name that
comes first. -/
theorem second_name_nearer :
    search layered (.ofText "a/.cdfrc/b") = .ok (some ["a", ".cdf.toml"]) ∧
    search { layered with top := layered.top.erase ["a", ".cdfrc"] } (.ofText "a/.cdfrc/b") =
      .ok (some ["a", ".cdf.toml"]) ∧
    layered.isFileAt ["a", ".cdf.toml"] = .ok true := by
  obtain ⟨_, finds, faults, alike, _, asks⟩ := search_settings_file layered (.ofText "a/.cdfrc/b")
  have way : layered.resolve (.ofText "a/.cdfrc/b") = ["a", ".cdfrc", "b"] := by decide +kernel
  have governs : Governs layered.top ["a", ".cdfrc", "b"] ["a"] := by
    refine ⟨by decide, by decide, fun upper above configures => ?_⟩
    have each : ∀ upper ∈ ["a", ".cdfrc", "b"].inits,
        Configures layered.top upper → upper.length ≤ ["a"].length := by decide
    exact each upper ((List.mem_inits _ _).mpr above) configures
  have askable : Askable layered (.ofText "a/.cdfrc/b") := by
    by_contra unaskable
    obtain ⟨f, fault⟩ := faults.mpr unaskable
    cases fault
  rw [way] at finds alike
  have found := (finds _).mpr ⟨askable, ["a"], governs, rfl⟩
  have passed := alike (layered.top.erase ["a", ".cdfrc"]) fun dir above => by
    have each : ∀ dir ∈ ["a", ".cdfrc", "b"].inits, ∀ name ∈ names,
        (Holds (layered.top.erase ["a", ".cdfrc"]) dir name ↔ Holds layered.top dir name) ∧
        ({ layered with top := layered.top.erase ["a", ".cdfrc"] }.locate ⟨.root, dir ++ [name]⟩ =
            .error .nameTooLong ↔
          layered.locate ⟨.root, dir ++ [name]⟩ = .error .nameTooLong) := by
      decide +kernel
    exact each dir ((List.mem_inits _ _).mpr above)
  refine ⟨found, passed.trans found, ?_⟩
  rw [asks ["a", ".cdf.toml"] (by decide) (by decide)]
  rfl

/-- A place whose path is a few octets short of the longest one. -/
def deepPlace : Location :=
  List.replicate 15 (.ofList (List.replicate 255 'x')) ++ [.ofList (List.replicate 250 'x')]

def deepTree : Disk :=
  { top := deepPlace.foldr (fun name below => .directory [(name, below)]) (.directory []) }

theorem deepPlace_clean (anchor : Anchor) : (Path.mk anchor deepPlace).hasNull = false := by
  have row (name : String) (member : name ∈ deepPlace) : ∃ n, name = .ofList (List.replicate n 'x') := by
    rcases List.mem_append.mp member with member | member
    · exact ⟨255, List.eq_of_mem_replicate member⟩
    · exact ⟨250, List.mem_singleton.mp member⟩
  rw [Path.hasNull, List.any_eq_false]
  intro name member
  obtain ⟨n, rfl⟩ := row name member
  simp

theorem deepTree_isDirectory : deepTree.isDirectory ⟨.root, deepPlace⟩ = .ok true := by
  have fits : ¬ longestPath < (Path.mk .root deepPlace).text.utf8ByteSize := by
    rw [deepPlace, List.replicate_succ, List.cons_append, utf8ByteSize_text]
    decide +kernel
  have leads : deepTree.locate ⟨.root, deepPlace⟩ = .ok deepPlace := by
    rw [locate, deepPlace_clean, if_neg Bool.false_ne_true, if_neg fits]
    decide +kernel
  have stands : (deepTree.top.at? deepPlace).any Node.isDirectory = true := by decide +kernel
  rw [isDirectory, look, node?, leads, Except.map, stands]

theorem deepTree_tooLong :
    deepTree.locate ⟨.root, deepPlace ++ [".cdfrc"]⟩ = .error .nameTooLong := by
  have clean : (Path.mk .root (deepPlace ++ [".cdfrc"])).hasNull = false := by
    have above := deepPlace_clean .root
    rw [Path.hasNull] at above ⊢
    rw [List.any_append, above]
    decide
  have long : longestPath < (Path.mk .root (deepPlace ++ [".cdfrc"])).text.utf8ByteSize := by
    rw [deepPlace, List.replicate_succ, List.cons_append, List.cons_append, utf8ByteSize_text]
    decide +kernel
  rw [locate, clean, if_neg Bool.false_ne_true, if_pos long]

/-- The directory is there and no settings file is, but a name more makes its path too long to be asked
for. -/
theorem deep_directory_unanswered :
    deepTree.isDirectory ⟨.root, deepPlace⟩ = .ok true ∧
    (∀ dir, dir <+: deepPlace → ¬ Configures deepTree.top dir) ∧
    search deepTree ⟨.relative, deepPlace⟩ =
      .error ⟨.nameTooLong, .ofText (deepTree.absolute (deepPlace ++ [".cdfrc"])), none⟩ := by
  have bare : ∀ dir ∈ deepPlace.inits, ¬ Configures deepTree.top dir := by decide +kernel
  have leads : deepTree.resolve ⟨.relative, deepPlace⟩ = deepPlace := by decide +kernel
  have first : candidates deepPlace =
      (deepPlace ++ [".cdfrc"]) :: (candidates deepPlace).tail := rfl
  refine ⟨deepTree_isDirectory, fun dir above => bare dir ((List.mem_inits _ _).mpr above), ?_⟩
  rw [search, deepPlace_clean, if_neg Bool.false_ne_true, leads, searchFrom, first, List.findM?,
    isFileAt_eq_error deepTree_tooLong]
  rfl

end CloneScan.SettingsFile
