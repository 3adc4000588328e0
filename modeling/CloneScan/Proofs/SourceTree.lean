import CloneScan.Discovery
import CloneScan.Proofs.Location
import Mathlib.Data.List.Nodup

/-! Trees as a file system holds them, and the paths of the source files in them. Names hold no slash
and differ within a directory, so no two source files of a tree are called the same. -/
namespace CloneScan.Node

structure IsName (name : String) : Prop where
  filled : name ≠ ""
  apart : name ≠ "." ∧ name ≠ ".."
  noSlash : '/' ∉ name.toList
  noNull : '\x00' ∉ name.toList

mutual
/-- A tree that a file system can hold: names are names, and no directory has one twice. -/
def WellNamed : Node → Prop
  | file _ => True
  | directory entries => (entries.map (·.1)).Nodup ∧ WellNamedBelow entries

def WellNamedBelow : List (String × Node) → Prop
  | [] => True
  | (name, n) :: rest => IsName name ∧ WellNamed n ∧ WellNamedBelow rest
end

/-- Induction over trees: a property of all entries carries over to their directory. -/
theorem entries_induction {P : Node → Prop} (atFile : ∀ content, P (file content))
    (atDirectory : ∀ entries, (∀ e ∈ entries, P e.2) → P (directory entries)) (n : Node) : P n := by
  match n with
  | file content => exact atFile content
  | directory entries =>
    exact atDirectory entries fun e member => entries_induction atFile atDirectory e.2
termination_by sizeOf n
decreasing_by
  obtain ⟨name, below⟩ := e
  have smaller := List.sizeOf_lt_of_mem member
  simp only [Prod.mk.sizeOf_spec, directory.sizeOf_spec] at smaller ⊢
  omega

theorem wellNamed_entry {entries : List (String × Node)} {e : String × Node}
    (valid : WellNamedBelow entries) (member : e ∈ entries) : IsName e.1 ∧ e.2.WellNamed := by
  induction entries with
  | nil => cases member
  | cons first rest ih =>
    obtain ⟨name, n⟩ := first
    rw [WellNamedBelow] at valid
    rcases List.mem_cons.mp member with rfl | later
    · exact ⟨valid.1, valid.2.1⟩
    · exact ih valid.2.2 later

theorem wellNamed_at? {place : Location} {n below : Node} (valid : n.WellNamed)
    (found : n.at? place = some below) : below.WellNamed := by
  induction place generalizing n with
  | nil =>
    rw [at?_nil] at found
    exact Option.some.inj found ▸ valid
  | cons name place ih =>
    cases n with
    | file content => simp [at?] at found
    | directory entries =>
      rw [at?] at found
      obtain ⟨next, entry, rest⟩ := Option.bind_eq_some_iff.mp found
      rw [WellNamed] at valid
      obtain ⟨before, after, split, _⟩ := List.lookup_eq_some_iff.mp entry
      have member : (name, next) ∈ entries := by simp [split]
      exact ih (wellNamed_entry valid.2 member).2 rest

def Source.path (s : Source) : String := "/".intercalate s.place

theorem byName_perm (xs : List (String × α)) : (byName xs).Perm xs := List.mergeSort_perm xs _

theorem ownFiles_names (wanted : String → Bool) (entries : List (String × Node)) :
    ((ownFiles wanted entries).map (·.1)).Sublist (entries.map (·.1)) := by
  induction entries with
  | nil => exact List.Sublist.slnil
  | cons e rest ih =>
    obtain ⟨name, n⟩ := e
    cases n with
    | directory entries => exact ih.cons name
    | file content =>
      cases chosen : wanted name with
      | false => simpa [ownFiles, chosen] using ih.cons name
      | true => simpa [ownFiles, chosen] using ih.cons_cons name

theorem mem_ownFiles {wanted : String → Bool} {entries : List (String × Node)}
    {f : String × List UInt8} (member : f ∈ ownFiles wanted entries) :
    wanted f.1 = true ∧ (f.1, file f.2) ∈ entries := by
  obtain ⟨⟨name, n⟩, entry, kept⟩ := List.mem_filterMap.mp member
  cases n with
  | directory entries => cases kept
  | file content =>
    cases chosen : wanted name with
    | false => simp [chosen] at kept
    | true =>
      simp only [chosen, if_true, Option.some.injEq] at kept
      subst f
      exact ⟨chosen, entry⟩

theorem sourcesBelow_names (wanted entered : String → Bool) (entries : List (String × Node)) :
    ((sourcesBelow wanted entered entries).map (·.1)).Sublist (entries.map (·.1)) := by
  induction entries with
  | nil => simp [sourcesBelow]
  | cons e rest ih =>
    obtain ⟨name, n⟩ := e
    cases n with
    | file content => simpa [sourcesBelow] using ih.cons name
    | directory entries =>
      cases enters : entered name with
      | false => simpa [sourcesBelow, enters] using ih.cons name
      | true => simpa [sourcesBelow, enters] using ih.cons_cons name

theorem mem_sourcesBelow {wanted entered : String → Bool} {entries : List (String × Node)}
    {found : String × List Source} (member : found ∈ sourcesBelow wanted entered entries) :
    ∃ n, (found.1, n) ∈ entries ∧ found.2 = sources wanted entered n := by
  induction entries with
  | nil => simp [sourcesBelow] at member
  | cons e rest ih =>
    obtain ⟨name, n⟩ := e
    have later (inside : found ∈ sourcesBelow wanted entered rest) :
        ∃ m, (found.1, m) ∈ (name, n) :: rest ∧ found.2 = sources wanted entered m := by
      obtain ⟨m, entry, same⟩ := ih inside
      exact ⟨m, List.mem_cons_of_mem _ entry, same⟩
    cases n with
    | file content => exact later (by simpa [sourcesBelow] using member)
    | directory entries =>
      cases enters : entered name with
      | false => exact later (by simpa [sourcesBelow, enters] using member)
      | true =>
        simp only [sourcesBelow, enters, if_true, List.mem_cons] at member
        rcases member with rfl | inside
        · exact ⟨_, List.mem_cons_self, rfl⟩
        · exact later inside

/-- Where a source file can stand: every name on the way is one, and its own name is wanted. -/
structure Source.Placed (wanted : String → Bool) (s : Source) : Prop where
  names : ∀ name ∈ s.place, IsName name
  own : ∃ above name, s.place = above ++ [name] ∧ wanted name = true

theorem sources_placed (wanted entered : String → Bool) (n : Node) (valid : n.WellNamed) :
    ∀ s ∈ sources wanted entered n, s.Placed wanted := by
  induction n using entries_induction with
  | atFile content => simp [sources]
  | atDirectory entries ih =>
    rw [WellNamed] at valid
    intro s member
    simp only [sources, List.mem_append, List.mem_map, List.mem_flatMap] at member
    rcases member with ⟨f, own, rfl⟩ | ⟨found, inside, t, below, rfl⟩
    · obtain ⟨chosen, entry⟩ := mem_ownFiles ((byName_perm _).mem_iff.mp own)
      refine ⟨?_, [], f.1, rfl, chosen⟩
      intro name here
      rw [List.mem_singleton.mp here]
      exact (wellNamed_entry valid.2 entry).1
    · obtain ⟨m, entry, same⟩ := mem_sourcesBelow ((byName_perm _).mem_iff.mp inside)
      have deeper := wellNamed_entry valid.2 entry
      have placed := ih _ entry deeper.2 t (same ▸ below)
      obtain ⟨above, name, split, chosen⟩ := placed.own
      refine ⟨?_, found.1 :: above, name, by simp [Source.below, split], chosen⟩
      intro other here
      rcases List.mem_cons.mp here with rfl | later
      · exact deeper.1
      · exact placed.names other later

/-- No place is met twice: names differ within a directory, and so do the directories entered. -/
theorem places_nodup (wanted entered : String → Bool) (n : Node) (valid : n.WellNamed) :
    ((sources wanted entered n).map (·.place)).Nodup := by
  induction n using entries_induction with
  | atFile content => simp [sources]
  | atDirectory entries ih =>
    rw [WellNamed] at valid
    have files : ((byName (ownFiles wanted entries)).map (·.1)).Nodup :=
      ((byName_perm _).map _).nodup_iff.mpr (valid.1.sublist (ownFiles_names wanted entries))
    have directories : ((byName (sourcesBelow wanted entered entries)).map (·.1)).Nodup :=
      ((byName_perm _).map _).nodup_iff.mpr
        (valid.1.sublist (sourcesBelow_names wanted entered entries))
    simp only [sources, List.map_append, List.map_map, List.map_flatMap]
    rw [List.nodup_append]
    refine ⟨?_, ?_, ?_⟩
    · -- The files of the directory itself.
      have singletons := files.map (f := fun name => [name]) fun a b same => (List.cons.inj same).1
      rwa [List.map_map] at singletons
    · -- Below one directory places differ by induction, below two they differ in its name.
      rw [List.nodup_flatMap]
      constructor
      · intro found inside
        obtain ⟨m, entry, same⟩ := mem_sourcesBelow ((byName_perm _).mem_iff.mp inside)
        have below := ih _ entry (wellNamed_entry valid.2 entry).2
        rw [← same] at below
        have longer := below.map (f := fun place => found.1 :: place)
          fun a b same => (List.cons.inj same).2
        rwa [List.map_map] at longer
      · rw [List.Nodup, List.pairwise_map] at directories
        refine directories.imp fun apart place left right => ?_
        obtain ⟨s, _, rfl⟩ := List.mem_map.mp left
        obtain ⟨t, _, same⟩ := List.mem_map.mp right
        exact apart (List.cons.inj same).1.symm
    · -- The places of the two kinds differ in length.
      intro place own other below same
      subst other
      obtain ⟨f, _, rfl⟩ := List.mem_map.mp own
      obtain ⟨found, inside, at_found⟩ := List.mem_flatMap.mp below
      obtain ⟨t, member, same⟩ := List.mem_map.mp at_found
      obtain ⟨m, entry, sources_eq⟩ := mem_sourcesBelow ((byName_perm _).mem_iff.mp inside)
      have placed := sources_placed wanted entered m (wellNamed_entry valid.2 entry).2 t
        (sources_eq ▸ member)
      obtain ⟨above, name, split, _⟩ := placed.own
      simp [Source.below, split] at same

/-- Places without slashes in their names are told apart by how they are spelt. -/
theorem Source.path_injective {wanted : String → Bool} {s t : Source} (hs : s.Placed wanted)
    (ht : t.Placed wanted) (same : s.path = t.path) : s.place = t.place := by
  have recovered (u : Source) (placed : u.Placed wanted) :
      u.path.toList.splitOn '/' = u.place.map String.toList := by
    obtain ⟨above, name, split, _⟩ := placed.own
    rw [path, String.toList_intercalate]
    apply List.splitOn_intercalate
    · intro part member
      obtain ⟨name, inside, rfl⟩ := List.mem_map.mp member
      exact (placed.names name inside).noSlash
    · simp [split]
  have lists := congrArg (fun path => path.toList.splitOn '/') same
  simp only [recovered s hs, recovered t ht] at lists
  exact List.map_injective_iff.mpr (fun _ _ => String.toList_inj.mp) lists

theorem paths_nodup (wanted entered : String → Bool) (n : Node) (valid : n.WellNamed) :
    ((sources wanted entered n).map Source.path).Nodup := by
  have places := places_nodup wanted entered n valid
  have placed := sources_placed wanted entered n valid
  rw [List.Nodup, List.pairwise_map] at places ⊢
  exact places.imp_of_mem fun hs ht apart same =>
    apart (Source.path_injective (placed _ hs) (placed _ ht) same)

end CloneScan.Node
