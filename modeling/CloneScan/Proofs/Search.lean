import CloneScan.Proofs.SourceTree
import Mathlib.Data.List.Forall2
import Mathlib.Data.List.Sort
import Mathlib.Data.String.Basic

/-! What a search of a tree finds, and in which order. It finds the files that it wants at the places
that it gets to, and their order is one of places alone. So what is found depends on which files
there are, and not on how directories list them. -/
namespace CloneScan.Node

/-- What the file at a place holds, if a file stands there. -/
def fileAt? (place : Location) (n : Node) : Option (List UInt8) :=
  match n.at? place with
  | some (file content) => some content
  | _ => none

theorem fileAt?_eq_some {place : Location} {n : Node} {content : List UInt8} :
    n.fileAt? place = some content ↔ n.at? place = some (file content) := by
  rw [fileAt?]
  split
  next old found => simp [found]
  next other =>
    simp only [reduceCtorEq, false_iff]
    exact other content

theorem fileAt?_cons (name : String) (place : Location) (entries : List (String × Node)) :
    fileAt? (name :: place) (directory entries) = (entries.lookup name).bind (fileAt? place) := by
  simp only [fileAt?, at?]
  cases entries.lookup name <;> rfl

theorem lookup_eq_some_of_nodup {entries : List (String × α)} (nodup : (entries.map (·.1)).Nodup)
    {name : String} {n : α} : entries.lookup name = some n ↔ (name, n) ∈ entries := by
  induction entries with
  | nil => simp
  | cons e rest ih =>
    obtain ⟨key, m⟩ := e
    rw [List.map_cons, List.nodup_cons] at nodup
    rw [List.lookup_cons, List.mem_cons, Prod.mk.injEq]
    by_cases same : name = key
    · subst name
      have absent : (key, n) ∉ rest := fun later =>
        nodup.1 (List.mem_map_of_mem (f := (·.1)) later)
      simp [absent, eq_comm]
    · rw [beq_false_of_ne same]
      simp [same, ih nodup.2]

theorem wellNamedBelow_iff {entries : List (String × Node)} :
    WellNamedBelow entries ↔ ∀ e ∈ entries, IsName e.1 ∧ e.2.WellNamed := by
  refine ⟨fun valid _ member => wellNamed_entry valid member, fun each => ?_⟩
  induction entries with
  | nil => trivial
  | cons e rest ih =>
    have first := each e List.mem_cons_self
    rw [WellNamedBelow]
    exact ⟨first.1, first.2, ih fun f later => each f (List.mem_cons_of_mem _ later)⟩

theorem wellNamed_perm {entries others : List (String × Node)} (same : entries.Perm others)
    (valid : (directory entries).WellNamed) : (directory others).WellNamed := by
  rw [WellNamed, wellNamedBelow_iff] at valid ⊢
  exact ⟨(same.map (·.1)).nodup_iff.mp valid.1, fun e member => valid.2 e (same.mem_iff.mpr member)⟩

/-- How a directory lists its entries says nothing of its files. -/
theorem fileAt?_perm {entries others : List (String × Node)} (same : entries.Perm others)
    (valid : (directory entries).WellNamed) (place : Location) :
    (directory entries).fileAt? place = (directory others).fileAt? place := by
  have still := wellNamed_perm same valid
  rw [WellNamed] at valid still
  cases place with
  | nil => rfl
  | cons name rest =>
    have lookup : entries.lookup name = others.lookup name := by
      apply Option.ext
      intro n
      rw [lookup_eq_some_of_nodup valid.1, lookup_eq_some_of_nodup still.1, same.mem_iff]
    rw [fileAt?_cons, fileAt?_cons, lookup]

/-- Whether a search gets to a place: it enters every directory on the way and wants the name at its
end. -/
def Sought (wanted entered : String → Bool) (place : Location) : Prop :=
  (∃ name, place.getLast? = some name ∧ wanted name = true) ∧
    ∀ part ∈ place.dropLast, entered part = true

/-- The order of a search: the files of a directory by name, then what is below its directories, by
their names. -/
def Precedes : Location → Location → Prop
  | [a], [b] => a < b
  | [_], _ :: _ :: _ => True
  | a :: next :: rest, b :: other :: more => a < b ∨ a = b ∧ Precedes (next :: rest) (other :: more)
  | _, _ => False

section

variable {wanted entered : String → Bool}

theorem sought_singleton {name : String} :
    Sought wanted entered [name] ↔ wanted name = true := by
  simp [Sought]

theorem sought_cons {name next : String} {rest : Location} :
    Sought wanted entered (name :: next :: rest) ↔
      entered name = true ∧ Sought wanted entered (next :: rest) := by
  simp [Sought, and_left_comm]

theorem Sought.ne_nil {place : Location} (sought : Sought wanted entered place) : place ≠ [] := by
  rintro rfl
  simp [Sought] at sought

theorem mem_ownFiles_iff {entries : List (String × Node)} {f : String × List UInt8} :
    f ∈ ownFiles wanted entries ↔ wanted f.1 = true ∧ (f.1, file f.2) ∈ entries := by
  refine ⟨mem_ownFiles, fun ⟨chosen, entry⟩ => ?_⟩
  exact List.mem_filterMap.mpr ⟨_, entry, by simp [chosen]⟩

theorem sourcesBelow_eq_filterMap (entries : List (String × Node)) :
    sourcesBelow wanted entered entries = entries.filterMap fun (name, n) =>
      if n.isDirectory && entered name then some (name, sources wanted entered n) else none := by
  induction entries with
  | nil => simp [sourcesBelow]
  | cons e rest ih =>
    obtain ⟨name, n⟩ := e
    cases n with
    | file content => simp [sourcesBelow, isDirectory, ih]
    | directory children =>
      cases enters : entered name <;> simp [sourcesBelow, isDirectory, enters, ih]

theorem mem_sourcesBelow_iff {entries : List (String × Node)} {found : String × List Source} :
    found ∈ sourcesBelow wanted entered entries ↔ entered found.1 = true ∧ ∃ n,
      (found.1, n) ∈ entries ∧ n.isDirectory = true ∧ found.2 = sources wanted entered n := by
  rw [sourcesBelow_eq_filterMap, List.mem_filterMap]
  constructor
  · rintro ⟨⟨name, n⟩, entry, kept⟩
    by_cases goes : (n.isDirectory && entered name) = true
    · simp only [if_pos goes, Option.some.injEq] at kept
      subst found
      rw [Bool.and_eq_true] at goes
      exact ⟨goes.2, n, entry, goes.1, rfl⟩
    · simp [goes] at kept
  · rintro ⟨enters, n, entry, directory, same⟩
    exact ⟨_, entry, by simp [enters, directory, ← same]⟩

/-- A search finds the files at the places that it gets to. -/
theorem mem_sources {n : Node} (valid : n.WellNamed) {s : Source} :
    s ∈ sources wanted entered n ↔
      Sought wanted entered s.place ∧ n.fileAt? s.place = some s.content := by
  induction n using entries_induction generalizing s with
  | atFile content =>
    obtain ⟨place, other⟩ := s
    cases place with
    | nil => simp [sources, Sought]
    | cons name rest => simp [sources, fileAt?, at?]
  | atDirectory entries ih =>
    rw [WellNamed] at valid
    obtain ⟨place, content⟩ := s
    have lookup {name : String} {n : Node} : entries.lookup name = some n ↔ (name, n) ∈ entries :=
      lookup_eq_some_of_nodup valid.1
    -- What is found below a directory is found by a search of it.
    have below {name : String} {n : Node} {t : Source} (entry : (name, n) ∈ entries) :
        t ∈ sources wanted entered n ↔
          Sought wanted entered t.place ∧ n.fileAt? t.place = some t.content :=
      ih _ entry (wellNamed_entry valid.2 entry).2
    simp only [sources, List.mem_append, List.mem_map, List.mem_flatMap, (byName_perm _).mem_iff,
      mem_ownFiles_iff, mem_sourcesBelow_iff]
    constructor
    · rintro (⟨f, ⟨chosen, entry⟩, same⟩ | ⟨found, ⟨enters, n, entry, _, all⟩, t, inside, same⟩)
      · cases same
        rw [fileAt?_cons, lookup.mpr entry]
        exact ⟨sought_singleton.mpr chosen, rfl⟩
      · cases same
        rw [all, below entry] at inside
        obtain ⟨next, rest, place⟩ := List.exists_cons_of_ne_nil inside.1.ne_nil
        rw [fileAt?_cons, lookup.mpr entry]
        rw [place] at inside ⊢
        exact ⟨sought_cons.mpr ⟨enters, inside.1⟩, inside.2⟩
    · rintro ⟨sought, found⟩
      rcases place with _ | ⟨name, _ | ⟨next, rest⟩⟩
      · exact absurd rfl sought.ne_nil
      · rw [fileAt?_cons, Option.bind_eq_some_iff] at found
        obtain ⟨n, entry, here⟩ := found
        cases n with
        | file old =>
          cases here
          exact .inl ⟨(name, content), ⟨sought_singleton.mp sought, lookup.mp entry⟩, rfl⟩
        | directory children => cases here
      · rw [fileAt?_cons, Option.bind_eq_some_iff] at found
        obtain ⟨n, entry, here⟩ := found
        obtain ⟨enters, further⟩ := sought_cons.mp sought
        have directory : n.isDirectory = true := by
          cases n with
          | file old => cases here
          | directory children => rfl
        exact .inr ⟨(name, _), ⟨enters, n, lookup.mp entry, directory, rfl⟩, ⟨next :: rest, content⟩,
          (below (lookup.mp entry)).mpr ⟨further, here⟩, rfl⟩

theorem Precedes.asymm {p q : Location} (before : Precedes p q) : ¬ Precedes q p := by
  fun_induction Precedes p q with
  | case1 a b =>
    rw [Precedes]
    exact lt_asymm before
  | case2 => simp [Precedes]
  | case3 a next rest b other more ih =>
    rw [Precedes]
    rcases before with first | ⟨rfl, before⟩
    · rintro (later | ⟨rfl, _⟩)
      · exact lt_asymm first later
      · exact lt_irrefl _ first
    · rintro (later | ⟨_, after⟩)
      · exact lt_irrefl _ later
      · exact ih before after
  | case4 => exact before.elim

instance : Std.Asymm Precedes := ⟨fun _ _ => Precedes.asymm⟩

theorem byName_ordered {xs : List (String × α)} (nodup : (xs.map (·.1)).Nodup) :
    (byName xs).Pairwise fun x y => x.1 < y.1 := by
  have sorted : (byName xs).Pairwise fun x y => decide (x.1 ≤ y.1) = true := by
    refine List.pairwise_mergeSort ?_ ?_ xs
    · intro x y z first second
      exact decide_eq_true (le_trans (of_decide_eq_true first) (of_decide_eq_true second))
    · intro x y
      simpa using le_total x.1 y.1
  have apart : (byName xs).Pairwise fun x y => x.1 ≠ y.1 :=
    List.pairwise_map.mp (((byName_perm xs).map _).nodup_iff.mpr nodup)
  exact (sorted.and apart).imp fun both => lt_of_le_of_ne (of_decide_eq_true both.1) both.2

/-- What a search finds stands in its order. -/
theorem sources_ordered {n : Node} (valid : n.WellNamed) :
    (sources wanted entered n).Pairwise fun s t => Precedes s.place t.place := by
  induction n using entries_induction with
  | atFile content => simp [sources]
  | atDirectory entries ih =>
    rw [WellNamed] at valid
    have files := byName_ordered (valid.1.sublist (ownFiles_names wanted entries))
    have directories := byName_ordered (valid.1.sublist (sourcesBelow_names wanted entered entries))
    -- What stands below a directory has more names than what stands in it.
    have below {found : String × List Source}
        (inside : found ∈ byName (sourcesBelow wanted entered entries)) :
        (found.2.Pairwise fun s t => Precedes s.place t.place) ∧
          ∀ s ∈ found.2, ∃ next rest, s.place = next :: rest := by
      obtain ⟨_, n, entry, _, all⟩ := mem_sourcesBelow_iff.mp ((byName_perm _).mem_iff.mp inside)
      have named := (wellNamed_entry valid.2 entry).2
      rw [all]
      refine ⟨ih _ entry named, fun s member => ?_⟩
      exact List.exists_cons_of_ne_nil ((mem_sources named).mp member).1.ne_nil
    rw [sources, List.pairwise_append, List.pairwise_map, List.pairwise_flatMap]
    refine ⟨files, ⟨?_, ?_⟩, ?_⟩
    · intro found inside
      obtain ⟨ordered, deeper⟩ := below inside
      rw [List.pairwise_map]
      refine ordered.imp_of_mem fun hs ht before => ?_
      obtain ⟨next, rest, hs⟩ := deeper _ hs
      obtain ⟨other, more, ht⟩ := deeper _ ht
      rw [hs, ht] at before
      simp only [Source.below, hs, ht]
      exact .inr ⟨rfl, before⟩
    · refine directories.imp_of_mem fun left right before => ?_
      intro s hs t ht
      obtain ⟨s, member, rfl⟩ := List.mem_map.mp hs
      obtain ⟨next, rest, hs⟩ := (below left).2 s member
      obtain ⟨t, member, rfl⟩ := List.mem_map.mp ht
      obtain ⟨other, more, ht⟩ := (below right).2 t member
      simp only [Source.below, hs, ht]
      exact .inl before
    · intro s own t ht
      obtain ⟨f, _, rfl⟩ := List.mem_map.mp own
      obtain ⟨found, inside, ht⟩ := List.mem_flatMap.mp ht
      obtain ⟨t, member, rfl⟩ := List.mem_map.mp ht
      obtain ⟨next, rest, place⟩ := (below inside).2 t member
      simp only [Source.below, place]
      exact trivial

/-- Sources are determined by their places and their order. -/
theorem eq_of_ordered {found others : List Source}
    (ordered : found.Pairwise fun s t => Precedes s.place t.place)
    (others_ordered : others.Pairwise fun s t => Precedes s.place t.place)
    (same : ∀ s, s ∈ found ↔ s ∈ others) : found = others := by
  have asymm : Std.Asymm fun s t : Source => Precedes s.place t.place :=
    ⟨fun _ _ => Precedes.asymm⟩
  exact ordered.eq_of_mem_iff others_ordered same

end

/-- Trees with files at the same places, where what a file holds is related to what the file at its
place in the other tree holds. -/
def FilesRelated (R : List UInt8 → List UInt8 → Prop) (m n : Node) : Prop :=
  ∀ place, Option.Rel R (m.fileAt? place) (n.fileAt? place)

section

variable {R : List UInt8 → List UInt8 → Prop}

theorem filesRelated_file {old new : List UInt8} (held : R old new) :
    FilesRelated R (file old) (file new) := by
  intro place
  cases place with
  | nil => exact .some held
  | cons name rest => exact .none

theorem filesRelated_directory {entries others : List (String × Node)}
    (related : List.Forall₂ (fun e f => e.1 = f.1 ∧ FilesRelated R e.2 f.2) entries others) :
    FilesRelated R (directory entries) (directory others) := by
  intro place
  cases place with
  | nil => exact .none
  | cons name rest =>
    rw [fileAt?_cons, fileAt?_cons]
    induction related with
    | nil => exact .none
    | @cons e f _ _ first _ ih =>
      obtain ⟨key, m⟩ := e
      obtain ⟨other, n⟩ := f
      obtain ⟨named, below⟩ := first
      cases named
      rw [List.lookup_cons, List.lookup_cons]
      by_cases same : name = key
      · subst name
        simpa using below rest
      · rw [beq_false_of_ne same]
        exact ih

end

theorem mem_places {wanted entered : String → Bool} {n : Node} (valid : n.WellNamed)
    {place : Location} :
    place ∈ (sources wanted entered n).map (·.place) ↔
      Sought wanted entered place ∧ (n.fileAt? place).isSome = true := by
  rw [List.mem_map, Option.isSome_iff_exists]
  constructor
  · rintro ⟨s, member, rfl⟩
    obtain ⟨sought, found⟩ := (mem_sources valid).mp member
    exact ⟨sought, s.content, found⟩
  · rintro ⟨sought, content, found⟩
    exact ⟨⟨place, content⟩, (mem_sources valid).mpr ⟨sought, found⟩, rfl⟩

/-- Searches of such trees find files at the same places, in the same order. -/
theorem sources_related {R : List UInt8 → List UInt8 → Prop} {m n : Node} (hm : m.WellNamed)
    (hn : n.WellNamed) (related : FilesRelated R m n) (wanted entered : String → Bool) :
    List.Forall₂ (fun s t => s.place = t.place ∧ R s.content t.content)
      (sources wanted entered m) (sources wanted entered n) := by
  have places : (sources wanted entered m).map (·.place) =
      (sources wanted entered n).map (·.place) := by
    refine (List.pairwise_map.mpr (sources_ordered hm)).eq_of_mem_iff
      (List.pairwise_map.mpr (sources_ordered hn)) fun place => ?_
    have both : (m.fileAt? place).isSome = (n.fileAt? place).isSome := by
      have contents := related place
      generalize m.fileAt? place = left, n.fileAt? place = right at contents
      cases contents <;> rfl
    rw [mem_places hm, mem_places hn, both]
  rw [← List.forall₂_eq_eq_eq, List.forall₂_map_left_iff, List.forall₂_map_right_iff] at places
  rw [List.forall₂_iff_zip] at places ⊢
  refine ⟨places.1, fun {s t} paired => ⟨places.2 paired, ?_⟩⟩
  obtain ⟨left, right⟩ := List.of_mem_zip paired
  have contents := related s.place
  rw [((mem_sources hm).mp left).2, places.2 paired, ((mem_sources hn).mp right).2] at contents
  cases contents with
  | some held => exact held

end CloneScan.Node
