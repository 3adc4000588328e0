import CloneScan.Proofs.FileChanges

/-! Disks that only grow: what stood before stands unchanged, and every path that led somewhere leads
there still. Making a directory with all directories above it grows a disk on the way of its path,
whether it comes to its end or not, and once it has come to its end there is nothing left to make. -/
namespace CloneScan

namespace Node

theorem alter_alter (name : String) (f g : Option Node → Node) (entries : List (String × Node)) :
    alter name g (alter name f entries) = alter name (fun old => g (some (f old))) entries := by
  induction entries with
  | nil => simp [alter]
  | cons entry rest ih =>
    obtain ⟨other, n⟩ := entry
    by_cases same : other = name
    · simp [alter, same]
    · simp [alter, same, ih]

/-- Of two nodes that are put at one place the second stays. -/
theorem put_put (place : Location) (n old new : Node) :
    (n.put place old).put place new = n.put place new := by
  induction place generalizing n with
  | nil => cases n <;> cases old <;> cases new <;> rfl
  | cons name rest ih =>
    cases n with
    | file content => rfl
    | directory entries =>
      rw [put, put, put, alter_alter]
      simp only [Option.getD_some, ih]

/-- Where nothing was, a directory is put together with the directories above it. A file that is in
the way keeps all of them out. -/
theorem surface?_put_directory {place : Location} {n : Node} (free : n.at? place = none)
    (other : Location) :
    (n.put place (directory [])).surface? other = n.surface? other ∨
      n.at? other = none ∧ (n.put place (directory [])).surface? other = some (directory []) ∧
        other <+: place := by
  induction place generalizing n other with
  | nil => simp at free
  | cons name rest ih =>
    cases n with
    | file content => exact .inl rfl
    | directory entries =>
      cases other with
      | nil => exact .inl rfl
      | cons first more =>
        by_cases same : first = name
        · subst first
          simp only [put, surface?_cons, lookup_alter_self, at?, Option.bind_some] at free ⊢
          cases entry : entries.lookup name with
          | some m =>
            rw [entry] at free
            simpa using ih free more
          | none =>
            simp only [Option.getD_none, Option.bind_none, List.cons_prefix_cons, true_and]
            cases rest with
            | nil => cases more <;> simp [put, surface?, surface, at?]
            | cons next rest =>
              rcases @ih (directory []) rfl more with kept | ⟨_, made, onWay⟩
              · cases more with
                | nil => exact .inr ⟨kept, List.nil_prefix⟩
                | cons => exact .inl (kept.trans rfl)
              · exact .inr ⟨made, onWay⟩
        · left
          rw [put, surface?_cons, surface?_cons, lookup_alter_other same]

end Node

namespace Disk

structure GrownAt (fresh : Location → Node → Prop) (d after : Disk) : Prop where
  frame : after = { d with top := after.top }
  places : ∀ place, after.top.surface? place = d.top.surface? place ∨
    d.top.at? place = none ∧ ∃ n, after.top.surface? place = some n ∧ fresh place n

section Growth

variable {fresh also : Location → Node → Prop} {d e after : Disk} {p : Path} {place : Location}

theorem GrownAt.refl (fresh : Location → Node → Prop) (d : Disk) : d.GrownAt fresh d :=
  ⟨rfl, fun _ => .inl rfl⟩

theorem GrownAt.mono (grown : d.GrownAt fresh after)
    (within : ∀ place n, fresh place n → also place n) : d.GrownAt also after where
  frame := grown.frame
  places place := (grown.places place).imp_right fun ⟨free, n, stands, new⟩ =>
    ⟨free, n, stands, within place n new⟩

theorem GrownAt.here (grown : d.GrownAt fresh after) : after.here = d.here := by
  rw [grown.frame]

theorem surface?_eq_none {n : Node} : n.surface? place = none ↔ n.at? place = none :=
  Option.map_eq_none_iff

theorem GrownAt.trans (first : d.GrownAt fresh e) (second : e.GrownAt fresh after) :
    d.GrownAt fresh after where
  frame := by
    rw [second.frame, first.frame]
  places place := by
    rcases second.places place with same | ⟨free, n, stands, new⟩
    · rw [same]
      exact first.places place
    · rcases first.places place with same | ⟨_, _, stood, _⟩
      · refine .inr ⟨?_, n, stands, new⟩
        rw [← surface?_eq_none, ← same]
        exact surface?_eq_none.mpr free
      · rw [surface?_eq_none.mpr free] at stood
        cases stood

/-- What stood before stands unchanged. -/
theorem GrownAt.kept (grown : d.GrownAt fresh after) {n : Node} (stood : d.top.at? place = some n) :
    after.top.surface? place = d.top.surface? place := by
  rcases grown.places place with same | ⟨free, _⟩
  · exact same
  · rw [stood] at free
    cases free

theorem GrownAt.file (grown : d.GrownAt fresh after) {content : List UInt8}
    (stood : d.top.at? place = some (.file content)) : after.top.at? place = some (.file content) := by
  rw [← Node.surface?_eq_file, grown.kept stood, Node.surface?_eq_file]
  exact stood

theorem GrownAt.isDirectoryAt (grown : d.GrownAt fresh after)
    (stood : d.top.isDirectoryAt place = true) : after.top.isDirectoryAt place = true := by
  obtain ⟨n, found, _⟩ := (Option.any_eq_true ..).mp stood
  rw [Node.isDirectoryAt_eq, grown.kept found, ← Node.isDirectoryAt_eq]
  exact stood

theorem GrownAt.walk (grown : d.GrownAt fresh after) {first last : Location} {parts : List String}
    (led : Disk.walk d.top first parts = .ok last) : Disk.walk after.top first parts = .ok last := by
  induction parts generalizing first with
  | nil => exact led
  | cons part rest ih =>
    obtain ⟨inside, short, led⟩ := (walk_cons ..).mp led
    exact (walk_cons ..).mpr ⟨grown.isDirectoryAt inside, short, ih led⟩

theorem GrownAt.start (grown : d.GrownAt fresh after) (p : Path) : after.start p = d.start p := by
  rw [Disk.start, Disk.start, grown.here]

theorem GrownAt.locate (grown : d.GrownAt fresh after) (led : d.locate p = .ok place) :
    after.locate p = .ok place := by
  obtain ⟨clean, short, walked⟩ := locate_eq_ok.mp led
  rw [← grown.start p] at walked
  exact locate_eq_ok.mpr ⟨clean, short, grown.walk walked⟩

end Growth

/-! ## Making directories -/

/-- An empty directory that a path leads through, or one above. -/
def Through (d : Disk) (p : Path) (place : Location) (n : Node) : Prop :=
  n = .directory [] ∧ ∃ front last, front <+: p.parts ∧
    walk d.top (d.start p) front = .ok last ∧ place <+: last

variable {d after : Disk} {p : Path}

theorem makeDirectory_eq_ok :
    d.makeDirectory p = .ok after ↔ ∃ place, d.locate p = .ok place ∧ d.top.at? place = none ∧
      after = { d with top := d.top.put place (.directory []) } := by
  rw [makeDirectory]
  cases d.locate p with
  | error cause => simp
  | ok place =>
    cases found : d.top.at? place with
    | none => simp [found, @eq_comm _ after]
    | some n => simp [found]

theorem makeDirectory_grownAt (made : d.makeDirectory p = .ok after) :
    d.GrownAt (d.Through p) after := by
  obtain ⟨place, led, free, rfl⟩ := makeDirectory_eq_ok.mp made
  refine ⟨rfl, fun other => (Node.surface?_put_directory free other).imp_right ?_⟩
  rintro ⟨nothing, stands, onWay⟩
  exact ⟨nothing, _, stands, rfl, p.parts, place, List.prefix_rfl, (locate_eq_ok.mp led).2.2, onWay⟩

/-- A way through a disk stays one when the disk grows, and when the path goes on. -/
theorem GrownAt.through {fresh : Location → Node → Prop} (grown : d.GrownAt fresh after)
    {q : Path} (anchor : q.anchor = p.anchor) (front : q.parts <+: p.parts) {place : Location}
    {n : Node} (way : d.Through q place n) : after.Through p place n := by
  obtain ⟨empty, parts, last, begins, led, onWay⟩ := way
  refine ⟨empty, parts, last, begins.trans front, ?_, onWay⟩
  have start : after.start p = d.start q := by
    rw [grown.start, Disk.start, Disk.start, anchor]
  rw [start]
  exact grown.walk led

theorem ensureDirectory_eq_ok (ensured : d.ensureDirectory p = .ok after) :
    d.makeDirectory p = .ok after ∨ after = d ∧ (d.node? p).any Node.isDirectory = true := by
  rw [ensureDirectory] at ensured
  cases made : d.makeDirectory p with
  | ok other =>
    rw [made] at ensured
    exact .inl (congrArg _ (Except.ok.inj ensured))
  | error f =>
    rw [made] at ensured
    dsimp only at ensured
    split at ensured
    · rename_i stands
      rw [Bool.and_eq_true] at stands
      exact .inr ⟨(Except.ok.inj ensured).symm, stands.2⟩
    · cases ensured

theorem ensureDirectory_grownAt (ensured : d.ensureDirectory p = .ok after) :
    d.GrownAt (after.Through p) after := by
  rcases ensureDirectory_eq_ok ensured with made | ⟨rfl, _⟩
  · have grown := makeDirectory_grownAt made
    exact grown.mono fun place n => grown.through rfl List.prefix_rfl
  · exact .refl _ _

/-- Whatever is made on the way to the directory above is made on the way of the path itself. -/
theorem GrownAt.below {mid : Disk} (grown : d.GrownAt (mid.Through p.parent) after) :
    d.GrownAt (mid.Through p) after := by
  have same : p.parent.anchor = p.anchor := rfl
  refine grown.mono fun place n => ?_
  exact (GrownAt.refl (fun _ _ => True) mid).through same (List.dropLast_prefix p.parts)

theorem makeDirectories_grownAt (depth : Nat) (d : Disk) (p : Path) :
    d.GrownAt ((makeDirectories depth d p).1.Through p) (makeDirectories depth d p).1 := by
  fun_induction makeDirectories depth d p with
  | case1 depth d p after ensured => exact ensureDirectory_grownAt ensured
  | case2 | case3 => exact .refl _ _
  | case4 d p _ _ depth _ mid f above ih =>
    rw [above] at ih
    exact ih.below
  | case5 d p _ _ depth _ mid above after ensured ih =>
    rw [above] at ih
    have last := ensureDirectory_grownAt ensured
    exact (ih.below.mono fun place n => last.through rfl List.prefix_rfl).trans last
  | case6 d p _ _ depth _ mid above f _ ih =>
    rw [above] at ih
    exact ih.below

/-- Once a directory is there, it is made again without a trace. -/
theorem ensureDirectory_again (ensured : d.ensureDirectory p = .ok after) :
    after.ensureDirectory p = .ok after ∧ ∃ place, after.locate p = .ok place := by
  rcases ensureDirectory_eq_ok ensured with made | ⟨rfl, stands⟩
  · have grown := makeDirectory_grownAt made
    obtain ⟨place, led, free, rfl⟩ := makeDirectory_eq_ok.mp made
    have leads := grown.locate led
    refine ⟨?_, place, leads⟩
    rw [ensureDirectory, makeDirectory, leads]
    dsimp only
    cases found : (d.top.put place (.directory [])).at? place with
    | none => simp [Node.put_put]
    | some n =>
      rcases Node.surface?_put_directory free place with same | ⟨_, stands, _⟩
      · rw [surface?_eq_none.mpr free, surface?_eq_none, found] at same
        cases same
      · have directory := Node.isDirectoryAt_eq place (d.top.put place (.directory []))
        rw [stands, Node.isDirectoryAt, found] at directory
        simpa [node?, leads, found, Node.isDirectory] using directory
  · refine ⟨ensured, ?_⟩
    rw [node?] at stands
    cases led : after.locate p with
    | error cause => simp [led] at stands
    | ok place => exact ⟨place, rfl⟩

theorem makeDirectories_again (depth : Nat) (d : Disk) (p : Path)
    (made : (makeDirectories depth d p).2 = none) :
    (makeDirectories depth d p).1.ensureDirectory p = .ok (makeDirectories depth d p).1 ∧
      ∃ place, (makeDirectories depth d p).1.locate p = .ok place := by
  fun_induction makeDirectories depth d p with
  | case1 depth d p after ensured => exact ensureDirectory_again ensured
  | case2 | case3 | case4 | case6 => cases made
  | case5 d p _ _ depth _ mid above after ensured ih => exact ensureDirectory_again ensured

end Disk

end CloneScan
