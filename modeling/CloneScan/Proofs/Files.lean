import CloneScan.Files.Disk
import Mathlib.Data.List.TakeDrop

/-! Trees as maps from places to what stands there. Putting and erasing a file change one place and no
other, as long as the place is in a directory and is none itself. Which paths lead somewhere depends
on the directories alone, so no path is lost or found by it. -/
namespace CloneScan

namespace Node

/-- A node without what it holds, if it is a directory. -/
def surface : Node → Node
  | file content => file content
  | directory _ => directory []

def surface? (place : Location) (n : Node) : Option Node := (n.at? place).map surface

def isDirectoryAt (place : Location) (n : Node) : Bool := (n.at? place).any isDirectory

@[simp] theorem surface?_nil (entries : List (String × Node)) :
    surface? [] (directory entries) = some (directory []) := rfl

@[simp] theorem surface?_file (name : String) (place : Location) (content : List UInt8) :
    surface? (name :: place) (file content) = none := rfl

theorem surface?_cons (name : String) (place : Location) (entries : List (String × Node)) :
    surface? (name :: place) (directory entries) = (entries.lookup name).bind (surface? place) := by
  simp only [surface?, at?]
  cases entries.lookup name <;> rfl

theorem isDirectoryAt_eq (place : Location) (n : Node) :
    n.isDirectoryAt place = (n.surface? place).any isDirectory := by
  rw [isDirectoryAt, surface?]
  cases n.at? place with
  | none => rfl
  | some m => cases m <;> rfl

theorem isDirectoryAt_cons (name : String) (place : Location) (entries : List (String × Node)) :
    isDirectoryAt (name :: place) (directory entries) =
      ((entries.lookup name).any (isDirectoryAt place)) := by
  simp only [isDirectoryAt, at?]
  cases entries.lookup name <;> rfl

/-- A file is seen in full. -/
theorem surface?_eq_file {place : Location} {n : Node} {content : List UInt8} :
    n.surface? place = some (file content) ↔ n.at? place = some (file content) := by
  rw [surface?]
  cases n.at? place with
  | none => simp
  | some m => cases m <;> simp [surface]

/-- Below what is no directory there is nothing. -/
theorem surface?_append_of_flat {place : Location} {n : Node} (flat : n.isDirectoryAt place = false)
    (name : String) (more : Location) : n.surface? (place ++ name :: more) = none := by
  induction place generalizing n with
  | nil =>
    cases n with
    | file content => rfl
    | directory entries => cases flat
  | cons first place ih =>
    cases n with
    | file content => rfl
    | directory entries =>
      rw [List.cons_append, surface?_cons]
      rw [isDirectoryAt_cons] at flat
      cases entry : entries.lookup first with
      | none => rfl
      | some m => exact ih (by simpa [entry] using flat)

/-- A file that is put into a directory stands at its own place and leaves all others as they were. -/
theorem surface?_put {above : Location} {name : String} {n : Node}
    (inside : n.isDirectoryAt above = true) (flat : n.isDirectoryAt (above ++ [name]) = false)
    (content : List UInt8) (place : Location) :
    (n.put (above ++ [name]) (file content)).surface? place =
      if place = above ++ [name] then some (file content) else n.surface? place := by
  induction above generalizing n place with
  | nil =>
    cases n with
    | file old => cases inside
    | directory entries =>
      rw [List.nil_append] at flat ⊢
      cases place with
      | nil => simp [put]
      | cons first place =>
        rw [put, surface?_cons]
        by_cases same : first = name
        · subst first
          rw [lookup_alter_self, Option.bind_some, put]
          -- Below the new file there is nothing, and below what was there before neither.
          cases place with
          | nil => simp [surface?, surface]
          | cons next place => simpa using (surface?_append_of_flat flat next place).symm
        · rw [lookup_alter_other same, if_neg (by simp [same]), surface?_cons]
  | cons first above ih =>
    cases n with
    | file old => cases inside
    | directory entries =>
      rw [isDirectoryAt_cons] at inside
      rw [List.cons_append] at flat ⊢
      rw [isDirectoryAt_cons] at flat
      cases place with
      | nil => simp [put]
      | cons next place =>
        rw [put, surface?_cons, surface?_cons]
        by_cases same : next = first
        · subst next
          rw [lookup_alter_self]
          cases entry : entries.lookup first with
          | none => simp [entry] at inside
          | some m =>
            rw [entry] at inside flat
            simpa using ih inside flat place
        · rw [lookup_alter_other same, if_neg (by simp [same])]

theorem lookup_filter_ne (name other : String) (entries : List (String × Node)) :
    (entries.filter (·.1 != name)).lookup other =
      if other = name then none else entries.lookup other := by
  induction entries with
  | nil => simp
  | cons e rest ih =>
    obtain ⟨key, n⟩ := e
    by_cases removed : key = name
    · subst key
      rw [List.filter_cons_of_neg (by simp), ih]
      by_cases same : other = name
      · rw [if_pos same, if_pos same]
      · rw [if_neg same, if_neg same, List.lookup_cons, beq_false_of_ne same]
    · rw [List.filter_cons_of_pos (by simpa using removed), List.lookup_cons, List.lookup_cons, ih]
      by_cases found : other = key
      · simp [found, removed]
      · rw [beq_false_of_ne found]

theorem lookup_map_entry (name other : String) (f : Node → Node) (entries : List (String × Node)) :
    (entries.map fun (key, n) => (key, if key = name then f n else n)).lookup other =
      (entries.lookup other).map fun n => if other = name then f n else n := by
  induction entries with
  | nil => rfl
  | cons e rest ih =>
    obtain ⟨key, n⟩ := e
    rw [List.map_cons, List.lookup_cons, List.lookup_cons, ih]
    by_cases found : other = key
    · simp [found]
    · rw [beq_false_of_ne found]

theorem surface?_erase {above : Location} {name : String} {n : Node}
    (flat : n.isDirectoryAt (above ++ [name]) = false) (place : Location) :
    (n.erase (above ++ [name])).surface? place =
      if place = above ++ [name] then none else n.surface? place := by
  induction above generalizing n place with
  | nil =>
    rw [List.nil_append] at flat ⊢
    cases n with
    | file content => cases place <;> simp [erase]
    | directory entries =>
      rw [erase]
      cases place with
      | nil => simp
      | cons first place =>
        rw [surface?_cons, surface?_cons, lookup_filter_ne]
        by_cases same : first = name
        · subst first
          cases place with
          | nil => simp
          | cons next place =>
            have below := surface?_append_of_flat flat next place
            rw [List.singleton_append, surface?_cons] at below
            simp [below]
        · simp [same]
  | cons first above ih =>
    rw [List.cons_append] at flat ⊢
    cases n with
    | file content => cases place <;> simp [erase]
    | directory entries =>
      rw [isDirectoryAt_cons] at flat
      rw [erase]
      · cases place with
        | nil => simp
        | cons next place =>
          rw [surface?_cons, surface?_cons, lookup_map_entry]
          cases entry : entries.lookup next with
          | none => simp
          | some m =>
            by_cases same : next = first
            · subst next
              rw [entry] at flat
              simpa using ih flat place
            · simp [same]
      · simp

/-- Two trees with the same directories. -/
def SameDirectories (m n : Node) : Prop := ∀ place, m.isDirectoryAt place = n.isDirectoryAt place

theorem put_sameDirectories {above : Location} {name : String} {n : Node}
    (inside : n.isDirectoryAt above = true) (flat : n.isDirectoryAt (above ++ [name]) = false)
    (content : List UInt8) : SameDirectories (n.put (above ++ [name]) (file content)) n := by
  intro place
  rw [isDirectoryAt_eq, surface?_put inside flat]
  by_cases same : place = above ++ [name]
  · rw [if_pos same, same, flat]
    rfl
  · rw [if_neg same, isDirectoryAt_eq]

theorem erase_sameDirectories {above : Location} {name : String} {n : Node}
    (flat : n.isDirectoryAt (above ++ [name]) = false) :
    SameDirectories (n.erase (above ++ [name])) n := by
  intro place
  rw [isDirectoryAt_eq, surface?_erase flat]
  by_cases same : place = above ++ [name]
  · rw [if_pos same, same, flat]
    rfl
  · rw [if_neg same, isDirectoryAt_eq]

/-- A file that is put at one place of a directory, taken away there and put at another place. -/
theorem surface?_moved {above : Location} {beside name : String} {n : Node}
    (inside : n.isDirectoryAt above = true) (free : n.isDirectoryAt (above ++ [beside]) = false)
    (flat : n.isDirectoryAt (above ++ [name]) = false) (content : List UInt8) :
    let moved := ((n.put (above ++ [beside]) (file content)).erase (above ++ [beside])).put
      (above ++ [name]) (file content)
    SameDirectories moved n ∧ ∀ place, moved.surface? place =
      if place = above ++ [name] then some (file content)
      else if place = above ++ [beside] then none else n.surface? place := by
  have wrote := put_sameDirectories inside free content
  have filled := (wrote (above ++ [beside])).trans free
  have erased := erase_sameDirectories filled
  have insideStill := (erased above).trans ((wrote above).trans inside)
  have flatStill := (erased (above ++ [name])).trans ((wrote (above ++ [name])).trans flat)
  constructor
  · intro place
    rw [put_sameDirectories insideStill flatStill, erased, wrote]
  · intro place
    rw [surface?_put insideStill flatStill, surface?_erase filled, surface?_put inside free]
    by_cases source : place = above ++ [beside]
    · rw [if_pos source, if_pos source]
    · rw [if_neg source, if_neg source, if_neg source]

end Node

theorem Path.parts_eq {p : Path} (filled : p.parts ≠ []) :
    p.parts = p.parts.dropLast ++ [p.name] := by
  rw [Path.name, List.getLast?_eq_some_getLast filled, Option.getD_some,
    List.dropLast_concat_getLast]

/-- A path beside another has its directory and a longer name. -/
theorem Path.extend?_eq_some {p beside : Path} {more : String} (named : p.extend? more = some beside) :
    beside.anchor = p.anchor ∧ beside.parts.dropLast = p.parts.dropLast ∧
      beside.name = p.name ++ more := by
  rw [Path.extend?] at named
  split at named
  next => cases named
  next =>
    cases named
    simp [Path.name]

/-- A name consists of its stem and its suffix. -/
theorem Path.stemOf_append_suffixOf (name : List Char) : stemOf name ++ suffixOf name = name := by
  have split : ∃ before, before ++ suffixOf name = name := by
    rw [suffixOf, List.span_eq_takeWhile_dropWhile]
    have whole := List.takeWhile_append_dropWhile (p := (· != '.')) (l := name.reverse)
    split
    next after before found =>
      obtain ⟨front, back⟩ := Prod.mk.inj found
      rw [front, back] at whole
      have name_eq : before.reverse ++ '.' :: after.reverse = name := by
        simpa using congrArg List.reverse whole
      split
      · exact ⟨name, List.append_nil name⟩
      · exact ⟨before.reverse, name_eq⟩
    · exact ⟨name, List.append_nil name⟩
  obtain ⟨before, whole⟩ := split
  have length : name.length - (suffixOf name).length = before.length := by
    rw [← congrArg List.length whole, List.length_append]
    omega
  have stem : stemOf name = before := by
    rw [stemOf, length]
    conv_lhs => rw [← whole]
    exact List.take_left
  rw [stem, whole]

/-- To add to the suffix of a path is to add to its name, whatever dots stand in it. -/
theorem Path.withSuffix?_suffix (p : Path) (more : String) :
    p.withSuffix? (p.suffix ++ more) = p.extend? more := by
  have name : String.ofList (stemOf p.name.toList) ++ (p.suffix ++ more) = p.name ++ more := by
    rw [← String.append_assoc, suffix, ← String.ofList_append, stemOf_append_suffixOf,
      String.ofList_toList]
  rw [withSuffix?, extend?, name]

namespace Disk

open Node (SameDirectories)

theorem walk_cons (top : Node) (place last : Location) (part : String) (rest : List String) :
    walk top place (part :: rest) = .ok last ↔
      top.isDirectoryAt place = true ∧ part.utf8ByteSize ≤ longestName ∧
        walk top (step place part) rest = .ok last := by
  rw [walk, Node.isDirectoryAt]
  cases top.at? place with
  | none => simp
  | some n =>
    cases n with
    | file content => simp [Node.isDirectory]
    | directory entries =>
      by_cases long : longestName < part.utf8ByteSize
      · have short := Nat.not_le.mpr long
        simp [long, short]
      · simp [long, Node.isDirectory, Nat.le_of_not_lt long]

theorem walk_concat (top : Node) (place last : Location) (parts : List String) (part : String) :
    walk top place (parts ++ [part]) = .ok last ↔
      ∃ above, walk top place parts = .ok above ∧ top.isDirectoryAt above = true ∧
        part.utf8ByteSize ≤ longestName ∧ last = step above part := by
  induction parts generalizing place with
  | nil =>
    rw [List.nil_append, walk_cons]
    constructor
    · rintro ⟨inside, short, ended⟩
      exact ⟨place, rfl, inside, short, (Except.ok.inj ended).symm⟩
    · rintro ⟨above, ended, inside, short, rfl⟩
      cases ended
      exact ⟨inside, short, rfl⟩
  | cons first parts ih =>
    simp only [List.cons_append, walk_cons, ih]
    constructor
    · rintro ⟨inside, short, above, rest⟩
      exact ⟨above, ⟨inside, short, rest.1⟩, rest.2⟩
    · rintro ⟨above, ⟨inside, short, front⟩, rest⟩
      exact ⟨inside, short, above, front, rest⟩

/-- Where a path leads depends on the directories alone. -/
theorem walk_congr {m n : Node} (same : SameDirectories m n) (place last : Location)
    (parts : List String) : walk m place parts = .ok last ↔ walk n place parts = .ok last := by
  induction parts generalizing place with
  | nil => rfl
  | cons part rest ih => rw [walk_cons, walk_cons, same, ih]

def start (d : Disk) (p : Path) : Location := match p.anchor with | .relative => d.here | _ => []

theorem locate_eq_ok {d : Disk} {p : Path} {place : Location} :
    d.locate p = .ok place ↔ p.hasNull = false ∧ p.text.utf8ByteSize ≤ longestPath ∧
      walk d.top (d.start p) p.parts = .ok place := by
  rw [locate]
  cases p.hasNull with
  | true => simp
  | false =>
    by_cases long : longestPath < p.text.utf8ByteSize
    · simp only [Bool.false_eq_true, if_false, if_pos long, reduceCtorEq, false_iff]
      omega
    · simp only [Bool.false_eq_true, if_false, if_neg long, true_and, Nat.le_of_not_lt long]
      rfl

theorem locate_congr {d e : Disk} (same : SameDirectories e.top d.top) (here : e.here = d.here)
    {p : Path} {place : Location} : e.locate p = .ok place ↔ d.locate p = .ok place := by
  have start : e.start p = d.start p := by rw [Disk.start, Disk.start, here]
  rw [locate_eq_ok, locate_eq_ok, start, walk_congr same]

/-- A path that ends in a name leads into a directory, to a place of that name. -/
theorem locate_named {d : Disk} {p : Path} {place : Location} (named : p.endsInName = true)
    (found : d.locate p = .ok place) :
    ∃ above, walk d.top (d.start p) p.parts.dropLast = .ok above ∧
      d.top.isDirectoryAt above = true ∧ place = above ++ [p.name] := by
  have filled : p.parts ≠ [] := by
    intro none
    simp [Path.endsInName, Path.name, none] at named
  have other : p.name ≠ ".." := by
    intro same
    simp [Path.endsInName, same] at named
  obtain ⟨_, _, walked⟩ := locate_eq_ok.mp found
  rw [Path.parts_eq filled] at walked
  obtain ⟨above, front, inside, _, last⟩ := (walk_concat ..).mp walked
  rw [step, if_neg other] at last
  exact ⟨above, front, inside, last⟩

theorem write_eq_ok {d e : Disk} {p : Path} {content : List UInt8} :
    d.write p content = .ok e ↔
      ∃ place, d.locate p = .ok place ∧ d.top.isDirectoryAt place = false ∧
        e = d.put place content := by
  rw [write]
  cases d.locate p with
  | error cause => simp
  | ok place =>
    by_cases occupied : (d.top.at? place).any Node.isDirectory = true
    · simp [Node.isDirectoryAt, occupied]
    · simp [Node.isDirectoryAt, occupied, @eq_comm _ e]

/-- What has to be so for a file to be given another name. -/
theorem rename_eq_ok {d e : Disk} {p q : Path} :
    d.rename p q = .ok e ↔
      p.endsInName = true ∧ q.endsInName = true ∧ ∃ source target content,
        d.locate p = .ok source ∧ d.locate q = .ok target ∧
          d.top.at? source = some (.file content) ∧ d.top.isDirectoryAt target = false ∧
          e = { d with top := (d.top.erase source).put target (.file content) } := by
  rw [rename]
  cases d.locate p with
  | error cause => simp
  | ok source =>
    cases d.locate q with
    | error cause => simp
    | ok target =>
      cases named : p.endsInName with
      | false => simp
      | true =>
        cases targeted : q.endsInName with
        | false => simp
        | true =>
          cases stands : d.top.at? source with
          | none => simp [stands]
          | some n =>
            cases n with
            | directory entries => simp [stands]
            | file content =>
              by_cases occupied : (d.top.at? target).any Node.isDirectory = true
              · simp [Node.isDirectoryAt, stands, occupied]
              · simp [Node.isDirectoryAt, stands, occupied, @eq_comm _ e]

structure Replaced (d after : Disk) (p : Path) (content : List UInt8) (place beside : Location) :
    Prop where
  here : after.here = d.here
  directories : SameDirectories after.top d.top
  located : d.locate p = .ok place
  surface : ∀ other, after.top.surface? other =
    if other = place then some (.file content)
    else if other = beside then none else d.top.surface? other

/-- A file that is written beside a path and moved there replaces what was there, and nothing else. -/
theorem replaced_of_rename {d written after : Disk} {beside p : Path} {content : List UInt8}
    (anchor : beside.anchor = p.anchor) (siblings : beside.parts.dropLast = p.parts.dropLast)
    (wrote : d.write beside content = .ok written) (renamed : written.rename beside p = .ok after) :
    ∃ above, d.Replaced after p content (above ++ [p.name]) (above ++ [beside.name]) := by
  obtain ⟨first, found, free, rfl⟩ := write_eq_ok.mp wrote
  obtain ⟨named, targeted, source, target, stored, atSource, atTarget, stands, flat, rfl⟩ :=
    rename_eq_ok.mp renamed
  obtain ⟨above, walked, inside, rfl⟩ := locate_named named found
  have wroteSame := Node.put_sameDirectories inside free content
  have asBefore {q : Path} {place : Location} :=
    @locate_congr d (d.put (above ++ [beside.name]) content) wroteSame rfl q place
  have located := asBefore.mp atTarget
  have same := asBefore.mp atSource
  rw [found] at same
  cases same
  obtain ⟨other, walkedThere, _, rfl⟩ := locate_named targeted located
  have start : d.start beside = d.start p := by rw [Disk.start, Disk.start, anchor]
  rw [start, siblings, walkedThere] at walked
  cases walked
  have content_eq : stored = content := by
    have here := Node.surface?_put inside free content (above ++ [beside.name])
    rw [if_pos rfl, Node.surface?_eq_file] at here
    exact Node.file.inj (Option.some.inj (stands.symm.trans here))
  subst content_eq
  obtain ⟨directories, surface⟩ :=
    Node.surface?_moved inside free ((wroteSame _).symm.trans flat) stored
  exact ⟨above, rfl, directories, located, surface⟩

/-- What was put at a path is found there. -/
theorem Replaced.read {d after : Disk} {p : Path} {content : List UInt8} {place beside : Location}
    (replaced : d.Replaced after p content place beside) :
    after.isFile p = .ok true ∧ after.read p = .ok content := by
  have located : after.locate p = .ok place :=
    (locate_congr replaced.directories replaced.here).mpr replaced.located
  have stands : after.top.at? place = some (.file content) := by
    rw [← Node.surface?_eq_file, replaced.surface, if_pos rfl]
  constructor
  · simp [isFile, look, node?, located, stands, Except.map, Node.isFile]
  · simp [Disk.read, located, stands]

end Disk

end CloneScan
