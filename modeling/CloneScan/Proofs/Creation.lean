import CloneScan.Proofs.Directories
import CloneScan.Proofs.SourceTree
import CloneScan.Utility.Creation

/-! What becomes of a disk when templates are written into a directory. The disk grows: by the
directories that lead there, and by the templates whose places were free. A dry run makes the same
choice for each template, unless the directory is missing and the steps up in its path lead past it to
templates that are there already: a dry run cannot follow such steps before the directories are made. -/
namespace CloneScan

theorem Path.ofText_name {name : String} (valid : Node.IsName name) :
    Path.ofText name = ⟨.relative, [name]⟩ := by
  have anchor : anchorOf name.toList = .relative := by
    cases spelled : name.toList with
    | nil => rfl
    | cons first rest =>
      have other : first ≠ '/' := by
        rintro rfl
        exact valid.noSlash (by simp [spelled])
      unfold anchorOf
      split <;> simp_all
  have whole : name.toList.splitOn '/' = [name.toList] := by
    refine List.splitOnP_eq_singleton fun c member => ?_
    rw [beq_eq_false_iff_ne]
    rintro rfl
    exact valid.noSlash member
  have filled : name.toList ≠ [] := by simpa using valid.filled
  have notDot : name.toList ≠ ['.'] := by
    intro same
    exact valid.apart.1 (String.toList_inj.mp same)
  simp [ofText, anchor, partsOf, whole, filled, notDot]

/-- What stands below a place stands in a directory. -/
theorem Node.isDirectoryAt_of_below {place more : Location} {name : String} {n below : Node}
    (found : n.at? (place ++ name :: more) = some below) : n.isDirectoryAt place = true := by
  by_contra flat
  have nothing := surface?_append_of_flat (Bool.eq_false_iff.mpr flat) name more
  rw [surface?, found] at nothing
  cases nothing

namespace Disk

variable {d e after : Disk} {p : Path}

theorem holds_of_locate {place : Location} (led : d.locate p = .ok place) :
    d.holds p = .ok (d.top.at? place).isSome := by
  simp [holds, look, node?, led, Except.map]

theorem holds_eq_ok {b : Bool} (asked : d.holds p = .ok b) : b = (d.node? p).isSome := by
  rw [holds, look] at asked
  split at asked
  · cases asked
  · exact (Except.ok.inj asked).symm

/-- A path that can be asked for leads somewhere, or is neither too long nor has a name that is. -/
theorem holds_of_ne (asked : d.locate p ≠ .error .nameTooLong) :
    d.holds p = .ok (d.node? p).isSome := by
  rw [holds, look]
  split
  · exact absurd ‹_› asked
  · rfl

/-- Without a step up a path only goes down. -/
theorem walk_down {top : Node} {place last : Location} {parts : List String}
    (straight : ".." ∉ parts) (walked : walk top place parts = .ok last) : last = place ++ parts := by
  induction parts generalizing place with
  | nil => simpa [walk, eq_comm] using walked
  | cons part rest ih =>
    rw [List.mem_cons, not_or] at straight
    obtain ⟨first, below⟩ := straight
    obtain ⟨_, _, walked⟩ := (walk_cons ..).mp walked
    rw [step, if_neg (Ne.symm first)] at walked
    simpa using ih below walked

/-- A way that goes straight down to a directory is there wherever that directory is. -/
theorem walk_straight {m n : Node} {place last : Location} {parts : List String}
    (straight : ".." ∉ parts) (walked : walk m place parts = .ok last)
    (stands : n.isDirectoryAt last = true) : walk n place parts = .ok last := by
  have ended := walk_down straight walked
  induction parts generalizing place with
  | nil => exact walked
  | cons part rest ih =>
    rw [List.mem_cons, not_or] at straight
    obtain ⟨first, below⟩ := straight
    obtain ⟨_, short, walked⟩ := (walk_cons ..).mp walked
    have next : step place part = place ++ [part] := if_neg (Ne.symm first)
    refine (walk_cons ..).mpr ⟨?_, short, ih below walked (by simpa [next] using ended)⟩
    rw [ended, Node.isDirectoryAt] at stands
    obtain ⟨n, found, _⟩ := (Option.any_eq_true ..).mp stands
    exact Node.isDirectoryAt_of_below found

theorem walk_ne_nameTooLong {m n : Node} {place other last : Location} {parts : List String}
    (walked : walk m place parts = .ok last) : walk n other parts ≠ .error .nameTooLong := by
  induction parts generalizing place other with
  | nil => simp [walk]
  | cons part rest ih =>
    obtain ⟨_, short, walked⟩ := (walk_cons ..).mp walked
    rw [walk]
    split
    · simp
    · simp
    · rw [if_neg (Nat.not_lt.mpr short)]
      exact ih walked

/-- A path that leads somewhere on one disk can be asked for on any other one. -/
theorem holds_of_locate_other {place : Location} (led : e.locate p = .ok place) :
    d.holds p = .ok (d.node? p).isSome := by
  obtain ⟨clean, short, walked⟩ := locate_eq_ok.mp led
  refine holds_of_ne ?_
  rw [locate, clean, if_neg Bool.false_ne_true, if_neg (Nat.not_lt.mpr short)]
  exact walk_ne_nameTooLong walked

/-- A path that leads to a directory is there, if it can be spelled at all. -/
theorem holds_of_walk {above place : Location} (spelled : e.locate p = .ok place)
    (walked : walk d.top (d.start p) p.parts = .ok above)
    (inside : d.top.isDirectoryAt above = true) : d.holds p = .ok true := by
  obtain ⟨clean, short, _⟩ := locate_eq_ok.mp spelled
  rw [Node.isDirectoryAt] at inside
  obtain ⟨n, found, _⟩ := (Option.any_eq_true ..).mp inside
  rw [holds_of_locate (locate_eq_ok.mpr ⟨clean, short, walked⟩), found]
  rfl

/-- A write to a free place grows the disk by the file. -/
theorem write_grownAt {content : List UInt8} (named : p.endsInName = true)
    (free : d.holds p = .ok false) (wrote : d.write p content = .ok after) :
    d.GrownAt (fun place n => d.locate p = .ok place ∧ n = .file content) after ∧
      Node.SameDirectories after.top d.top ∧
      ∃ place, d.locate p = .ok place ∧ d.top.at? place = none ∧
        after.top.at? place = some (.file content) := by
  obtain ⟨place, led, flat, rfl⟩ := write_eq_ok.mp wrote
  rw [holds_of_locate led, Except.ok.injEq, Option.isSome_eq_false_iff, Option.isNone_iff_eq_none]
    at free
  obtain ⟨above, _, inside, rfl⟩ := locate_named named led
  have surface := Node.surface?_put inside flat content
  refine ⟨⟨rfl, fun other => ?_⟩, Node.put_sameDirectories inside flat content, _, led, free, ?_⟩
  · rw [put, surface]
    split
    · rename_i same
      subst same
      exact .inr ⟨free, _, rfl, led, rfl⟩
    · exact .inl rfl
  · rw [← Node.surface?_eq_file, put, surface, if_pos rfl]

end Disk

namespace Utility.Creation

/-- The place of a template below a directory. -/
def target (dir : Path) (t : Template) : Path := dir.join (Path.ofText t.file)

/-- What has become of a template: it stands where nothing stood, or something stood there or was made
there before. -/
inductive Placed (dir : Path) (made : Location → Prop) (d after : Disk) (t : Template) :
    Path × Status → Prop where
  | present {place : Location} (leads : after.locate (target dir t) = .ok place)
      (stood : (∃ n, d.top.at? place = some n) ∨ made place) :
      Placed dir made d after t (target dir t, .present)
  | created {place : Location} (leads : after.locate (target dir t) = .ok place)
      (free : d.top.at? place = none)
      (stands : after.top.at? place = some (.file (Text.Utf8.encode t.content))) :
      Placed dir made d after t (target dir t, .created)

def unmade (_ : Location) : Prop := False

/-- A template that stands where a path of its name leads. -/
def Fresh (dir : Path) (d : Disk) (templates : List Template) (place : Location) (n : Node) : Prop :=
  ∃ t ∈ templates, d.locate (target dir t) = .ok place ∧ n = .file (Text.Utf8.encode t.content)

variable {dir : Path} {d after : Disk} {t : Template} {templates : List Template}

theorem target_eq (valid : Node.IsName t.file) : target dir t = ⟨dir.anchor, dir.parts ++ [t.file]⟩ := by
  rw [target, Path.ofText_name valid]
  rfl

theorem target_endsInName (valid : Node.IsName t.file) : (target dir t).endsInName = true := by
  simp [target_eq valid, Path.endsInName, Path.name, valid.filled, valid.apart.2]

/-- A template belongs into the directory that its path leads to. -/
theorem locate_target {place : Location} (valid : Node.IsName t.file)
    (led : d.locate (target dir t) = .ok place) :
    ∃ above, Disk.walk d.top (d.start dir) dir.parts = .ok above ∧
      d.top.isDirectoryAt above = true ∧ place = above ++ [t.file] := by
  obtain ⟨above, walked, inside, rfl⟩ := Disk.locate_named (target_endsInName valid) led
  rw [target_eq valid] at walked ⊢
  refine ⟨above, ?_, inside, ?_⟩
  · simpa [Disk.start] using walked
  · simp [Path.name]

/-! ## One template after another -/

theorem place_cons (dryRun : Bool) (dir : Path) (d : Disk) (t : Template) (rest : List Template) :
    place dryRun dir d (t :: rest) =
      match d.holds (target dir t) with
      | .error f => ⟨d, [], some f, false⟩
      | .ok true => prepend (target dir t, .present) (place dryRun dir d rest)
      | .ok false =>
        if dryRun then prepend (target dir t, .planned) (place dryRun dir d rest)
        else
          match d.write (target dir t) (Text.Utf8.encode t.content) with
          | .ok after => prepend (target dir t, .created) (place dryRun dir after rest)
          | .error f => ⟨d, [], some f, false⟩ := rfl

theorem Fresh.of_rest {e : Disk} {rest : List Template}
    (same : ∀ {p place}, e.locate p = .ok place ↔ d.locate p = .ok place) {place : Location} {n : Node}
    (fresh : Fresh dir e rest place n) : Fresh dir d (t :: rest) place n := by
  obtain ⟨u, member, led, file⟩ := fresh
  exact ⟨u, .tail _ member, same.mp led, file⟩

/-- The disk grows by templates, and no directory comes or goes. -/
theorem place_grownAt (valid : ∀ t ∈ templates, Node.IsName t.file) :
    d.GrownAt (Fresh dir d templates) (place false dir d templates).disk ∧
      Node.SameDirectories (place false dir d templates).disk.top d.top := by
  induction templates generalizing d with
  | nil => exact ⟨.refl _ _, fun _ => rfl⟩
  | cons t rest ih =>
    have later {e : Disk} := @ih e fun u member => valid u (.tail _ member)
    rw [place_cons]
    rcases asked : d.holds (target dir t) with f | _ | _
    · exact ⟨.refl _ _, fun _ => rfl⟩
    · cases wrote : d.write (target dir t) (Text.Utf8.encode t.content) with
      | error f => exact ⟨.refl _ _, fun _ => rfl⟩
      | ok e =>
        obtain ⟨grown, same, _⟩ :=
          Disk.write_grownAt (target_endsInName (valid t (.head _))) asked wrote
        obtain ⟨more, directories⟩ := @later e
        have here := grown.here
        refine ⟨(grown.mono ?_).trans (more.mono ?_), fun place => ?_⟩
        · rintro place n ⟨led, rfl⟩
          exact ⟨t, .head _, led, rfl⟩
        · exact fun place n => .of_rest (Disk.locate_congr same here)
        · exact (directories place).trans (same place)
    · obtain ⟨more, directories⟩ := @later d
      exact ⟨more.mono fun place n => .of_rest Iff.rfl, directories⟩

/-- What stood at the place of a template before some step stood there earlier, or the step made it. -/
theorem Placed.before {made : Location → Prop} {e : Disk} {result : Path × Status}
    (placed : Placed dir unmade e after t result)
    (step : ∀ place, after.locate (target dir t) = .ok place →
      e.top.surface? place = d.top.surface? place ∨ d.top.at? place = none ∧ made place) :
    Placed dir made d after t result := by
  cases placed with
  | present leads stood =>
    obtain ⟨n, found⟩ := stood.resolve_right id
    refine .present leads ?_
    rcases step _ leads with same | ⟨_, new⟩
    · rw [Node.surface?, found, Option.map_some, eq_comm] at same
      obtain ⟨m, before, _⟩ := Option.map_eq_some_iff.mp same
      exact .inl ⟨m, before⟩
    · exact .inr new
  | created leads free stands =>
    refine .created leads ?_ stands
    rcases step _ leads with same | ⟨before, _⟩
    · rw [Disk.surface?_eq_none.mpr free, eq_comm] at same
      exact Disk.surface?_eq_none.mp same
    · exact before

/-- Templates of different names have different places. -/
theorem target_apart {e : Disk} {u : Template} (valid : Node.IsName t.file ∧ Node.IsName u.file)
    (other : u.file ≠ t.file) {place second : Location} (led : d.locate (target dir t) = .ok place)
    (leads : e.locate (target dir u) = .ok second) : second ≠ place := by
  obtain ⟨above, _, _, rfl⟩ := locate_target valid.1 led
  obtain ⟨_, _, _, rfl⟩ := locate_target valid.2 leads
  intro same
  exact other (List.append_singleton_inj.mp same).2

/-- Each template of a run that comes to its end has been written or was kept out. -/
theorem place_placed (valid : ∀ t ∈ templates, Node.IsName t.file)
    (distinct : (templates.map (·.file)).Nodup) (ended : (place false dir d templates).fault = none) :
    List.Forall₂ (Placed dir unmade d (place false dir d templates).disk) templates
      (place false dir d templates).results := by
  induction templates generalizing d with
  | nil => exact .nil
  | cons t rest ih =>
    have validRest : ∀ u ∈ rest, Node.IsName u.file := fun u member => valid u (.tail _ member)
    obtain ⟨apart, distinctRest⟩ := List.nodup_cons.mp distinct
    rw [place_cons] at ended ⊢
    rcases asked : d.holds (target dir t) with f | _ | _
    all_goals rw [asked] at ended
    · cases ended
    · cases wrote : d.write (target dir t) (Text.Utf8.encode t.content) with
      | error f =>
        simp only [wrote] at ended
        cases ended
      | ok e =>
        simp only [wrote] at ended
        obtain ⟨grown, same, place, led, free, stands⟩ :=
          Disk.write_grownAt (target_endsInName (valid t (.head _))) asked wrote
        have more := (@place_grownAt dir e rest validRest).1
        have later := ih validRest distinctRest ended
        refine .cons (.created (more.locate (grown.locate led)) free (more.file stands)) ?_
        -- No later template belongs where this one has just been written.
        have others : ∀ u ∈ rest, Node.IsName u.file ∧ u.file ≠ t.file := by
          intro u member
          refine ⟨validRest u member, fun same => apart ?_⟩
          exact List.mem_map.mpr ⟨u, member, same⟩
        refine ((List.forall₂_and_left ..).mpr ⟨others, later⟩).imp ?_
        rintro u result ⟨⟨name, other⟩, placed⟩
        refine placed.before fun second leads => .inl ?_
        rcases grown.places second with same | ⟨_, _, _, led, _⟩
        · exact same
        · exact absurd rfl (target_apart ⟨valid t (.head _), name⟩ other led leads)
    · have more := (@place_grownAt dir d rest validRest).1
      have stood := Disk.holds_eq_ok asked
      rw [Disk.node?] at stood
      cases led : d.locate (target dir t) with
      | error cause => simp [led] at stood
      | ok place =>
        rw [led, eq_comm, Option.isSome_iff_exists] at stood
        obtain ⟨n, found⟩ := stood
        exact .cons (.present (more.locate led) (.inl ⟨n, found⟩)) (ih validRest distinctRest ended)

/-- What a dry run tells of a template. -/
def foreseen (d : Disk) (dir : Path) (t : Template) : Path × Status :=
  (target dir t, if (d.node? (target dir t)).isSome then .present else .planned)

/-- A dry run whose targets can all be asked for comes to its end. -/
theorem place_dry (asked : ∀ t ∈ templates, ∃ b, d.holds (target dir t) = .ok b) :
    place true dir d templates = ⟨d, templates.map (foreseen d dir), none, false⟩ := by
  induction templates with
  | nil => rfl
  | cons t rest ih =>
    obtain ⟨b, standing⟩ := asked t (.head _)
    have there := Disk.holds_eq_ok standing
    rw [place_cons, standing, ih fun u member => asked u (.tail _ member), List.map_cons, foreseen,
      ← there]
    cases b <;> rfl

theorem place_dry_missing (missing : ∀ t ∈ templates, d.holds (target dir t) = .ok false) :
    place true dir d templates =
      ⟨d, templates.map fun t => (target dir t, .planned), none, false⟩ := by
  rw [place_dry fun t member => ⟨false, missing t member⟩]
  have planned : templates.map (foreseen d dir) =
      templates.map fun t => (target dir t, Status.planned) := by
    refine List.map_congr_left fun t member => ?_
    rw [foreseen, ← Disk.holds_eq_ok (missing t member)]
    rfl
  rw [planned]

theorem place_dry_disk (dir : Path) (d : Disk) (templates : List Template) :
    (place true dir d templates).disk = d := by
  induction templates with
  | nil => rfl
  | cons t rest ih =>
    rw [place_cons]
    rcases d.holds (target dir t) with f | _ | _
    · rfl
    · exact ih
    · exact ih

/-- Where all templates are there already, nothing is left to do. -/
theorem place_present (dryRun : Bool)
    (standing : ∀ t ∈ templates, d.holds (target dir t) = .ok true) :
    place dryRun dir d templates =
      ⟨d, templates.map fun t => (target dir t, .present), none, false⟩ := by
  induction templates with
  | nil => rfl
  | cons t rest ih =>
    rw [place_cons, standing t (.head _), ih fun u member => standing u (.tail _ member)]
    rfl

theorem Placed.leads {made : Location → Prop} {result : Path × Status}
    (placed : Placed dir made d after t result) :
    ∃ place, after.locate (target dir t) = .ok place := by
  cases placed with
  | present leads => exact ⟨_, leads⟩
  | created leads => exact ⟨_, leads⟩

/-- A template that has been placed is there. -/
theorem Placed.holds {fresh : Location → Node → Prop} {result : Path × Status}
    (placed : Placed dir unmade d after t result) (grown : d.GrownAt fresh after) :
    after.holds (target dir t) = .ok true := by
  cases placed with
  | present leads stood =>
    obtain ⟨_, stood⟩ := stood.resolve_right id
    have kept := grown.kept stood
    rw [Node.surface?, Node.surface?, stood, Option.map_some] at kept
    obtain ⟨n, found, _⟩ := Option.map_eq_some_iff.mp kept
    rw [Disk.holds_of_locate leads, found]
    rfl
  | created leads _ stands =>
    rw [Disk.holds_of_locate leads, stands]
    rfl

/-! ## The directory -/

/-- A disk on which the directory of the templates can be made without a trace, if it has to be. -/
structure Settled (dir : Path) (d : Disk) : Prop where
  leads : ∃ place, d.locate dir = .ok place
  again : d.holds dir = .ok true ∨ d.ensureDirectory dir = .ok d

theorem Settled.run_eq (settled : Settled dir d) (templates : List Template) :
    ∃ made, run false dir d templates =
      { place false dir d templates with madeDirectory := made } := by
  obtain ⟨above, leads⟩ := settled.leads
  rw [run]
  rcases asked : d.holds dir with f | _ | _
  · rw [Disk.holds_of_locate leads] at asked
    cases asked
  · have again := settled.again.resolve_left (by simp [asked])
    refine ⟨true, ?_⟩
    cases dir.parts.length <;> simp [Disk.makeDirectories, again]
  · exact ⟨_, rfl⟩

/-- After a run there is nothing left to do for another one. -/
theorem Settled.idle (settled : Settled dir d) (valid : ∀ t ∈ templates, Node.IsName t.file)
    (distinct : (templates.map (·.file)).Nodup) (ended : (place false dir d templates).fault = none) :
    let again := run false dir (place false dir d templates).disk templates
    again.disk = (place false dir d templates).disk ∧ again.fault = none ∧
      again.results = templates.map fun t => (target dir t, .present) := by
  have grown := (@place_grownAt dir d templates valid).1
  have placed := place_placed valid distinct ended
  have there : ∀ t ∈ templates,
      (place false dir d templates).disk.holds (target dir t) = .ok true ∧
        ∃ place, (Creation.place false dir d templates).disk.locate (target dir t) = .ok place :=
    ((List.forall₂_and_left ..).mp
      (placed.imp fun t result each => ⟨⟨each.holds grown, each.leads⟩, each⟩)).1
  have after : Settled dir (place false dir d templates).disk := by
    obtain ⟨above, leads⟩ := settled.leads
    refine ⟨⟨above, grown.locate leads⟩, ?_⟩
    cases templates with
    | nil => exact settled.again
    | cons t rest =>
      obtain ⟨_, place, leadsThere⟩ := there t (.head _)
      obtain ⟨_, walked, inside, _⟩ := locate_target (valid t (.head _)) leadsThere
      exact .inl (Disk.holds_of_walk leads walked inside)
  obtain ⟨made, again⟩ := after.run_eq templates
  rw [again, place_present false fun t member => (there t member).1]
  exact ⟨rfl, rfl, rfl⟩

/-- A run that comes to its end has first settled the directory. -/
theorem run_settles (ended : (run false dir d templates).fault = none) :
    ∃ found base made, d.holds dir = .ok found ∧ (found = true → base = d) ∧
      d.GrownAt (base.Through dir) base ∧ Settled dir base ∧
      run false dir d templates = { place false dir base templates with madeDirectory := made } := by
  rw [run] at ended ⊢
  rcases asked : d.holds dir with f | _ | _
  all_goals simp only [asked] at ended ⊢
  · cases ended
  · have grown := Disk.makeDirectories_grownAt dir.parts.length d dir
    have again := Disk.makeDirectories_again dir.parts.length d dir
    rcases made : Disk.makeDirectories dir.parts.length d dir with ⟨base, _ | f⟩
    all_goals rw [made] at grown again
    · obtain ⟨ensured, leads⟩ := again rfl
      exact ⟨false, base, true, rfl, nofun, grown, ⟨leads, .inr ensured⟩, by simp⟩
    · simp [made] at ended
  · have stood := Disk.holds_eq_ok asked
    have leads : ∃ place, d.locate dir = .ok place := by
      rw [Disk.node?] at stood
      cases led : d.locate dir with
      | error cause => simp [led] at stood
      | ok place => exact ⟨place, rfl⟩
    exact ⟨true, d, _, rfl, fun _ => rfl, .refl _ _, ⟨leads, .inl asked⟩, rfl⟩

/-- Whatever stood before a run stands after it, however the run ends. -/
theorem run_grownAt (valid : ∀ t ∈ templates, Node.IsName t.file) (dryRun : Bool) :
    d.GrownAt (fun _ _ => True) (run dryRun dir d templates).disk := by
  have trivially {fresh : Location → Node → Prop} {d e : Disk} (grown : d.GrownAt fresh e) :
      d.GrownAt (fun _ _ => True) e := grown.mono fun _ _ _ => trivial
  have placing (e : Disk) := trivially (@place_grownAt dir e templates valid).1
  have made := trivially (Disk.makeDirectories_grownAt dir.parts.length d dir)
  rw [run]
  rcases d.holds dir with f | found
  · exact .refl _ _
  · dsimp only
    split
    · cases dryRun with
      | true =>
        rw [place_dry_disk]
        exact .refl _ _
      | false => exact placing d
    · rename_i real
      obtain ⟨rfl, _⟩ : dryRun = false ∧ found = false := by simpa using real
      rcases ended : Disk.makeDirectories dir.parts.length d dir with ⟨base, _ | f⟩
      all_goals rw [ended] at made
      · exact made.trans (placing base)
      · exact made

/-- On a disk without the directory no template can stand at its target. -/
theorem holds_target_of_missing {above place : Location} (valid : Node.IsName t.file)
    (reach : after.locate dir = .ok above) (leads : after.locate (target dir t) = .ok place)
    (missing : d.holds dir = .ok false) : d.holds (target dir t) = .ok false := by
  rw [Disk.holds_of_locate_other leads, Disk.node?]
  cases led : d.locate (target dir t) with
  | error cause => rfl
  | ok other =>
    obtain ⟨_, walked, inside, _⟩ := locate_target valid led
    cases missing.symm.trans (Disk.holds_of_walk reach walked inside)

/-- Nor can it stand at the place of its target, if the path of the directory goes straight down. -/
theorem at?_target_of_missing {above place : Location} (valid : Node.IsName t.file)
    (straight : ".." ∉ dir.parts) (here : after.start dir = d.start dir)
    (reach : after.locate dir = .ok above) (leads : after.locate (target dir t) = .ok place)
    (missing : d.holds dir = .ok false) : d.top.at? place = none := by
  obtain ⟨last, walked, _, rfl⟩ := locate_target valid leads
  cases found : d.top.at? (last ++ [t.file]) with
  | none => rfl
  | some n =>
    have inside := Node.isDirectoryAt_of_below found
    rw [here] at walked
    have walkedBefore := Disk.walk_straight straight walked inside
    cases missing.symm.trans (Disk.holds_of_walk reach walkedBefore inside)

/-! ## Whole runs -/

/-- What a dry run has to tell of a template that a real run treats in this way. -/
def Status.beforehand : Status → Status
  | .created => .planned
  | status => status

def beforehand (results : List (Path × Status)) : List (Path × Status) :=
  results.map fun (path, status) => (path, Status.beforehand status)

/-- What comes of a run that ends well. Each template has been written to its free place, or was kept
out by what stood there or by a directory that was made on the way, and there is nothing new but these
templates and directories. Where the directory was there, or no step in its path leads up, no template
is kept out by what has just been made, and a dry run tells the results beforehand. Otherwise it does so
exactly if all templates have been written. There is nothing left for another run. -/
structure Finished (dir : Path) (d : Disk) (templates : List Template) (dry real again : Creation) :
    Prop where
  placed : List.Forall₂ (Placed dir (real.disk.Through dir · (.directory [])) d real.disk) templates
    real.results
  grown : d.GrownAt (fun place n => real.disk.Through dir place n ∨
    Fresh dir real.disk templates place n) real.disk
  told : dry.fault = none
  straight : d.holds dir = .ok true ∨ ".." ∉ dir.parts →
    List.Forall₂ (Placed dir unmade d real.disk) templates real.results ∧
      dry.results = beforehand real.results
  astray : d.holds dir = .ok false →
    (dry.results = beforehand real.results ↔ ∀ result ∈ real.results, result.2 = .created)
  idle : again.disk = real.disk ∧ again.fault = none ∧
    again.results = templates.map fun t => (target dir t, .present)

theorem beforehand_eq_of_forall₂ {results : List (Path × Status)} {told : Template → Path × Status}
    (each : List.Forall₂ (fun t result => told t = (result.1, Status.beforehand result.2)) templates
      results) : templates.map told = beforehand results := by
  induction each with
  | nil => rfl
  | cons same _ ih => rw [List.map_cons, same, ih, beforehand, beforehand, List.map_cons]

/-- With the directory there, a dry run finds each template as the real one does. -/
theorem foreseen_of_placed (same : ∀ {p place}, after.locate p = .ok place ↔ d.locate p = .ok place)
    {results : List (Path × Status)}
    (placed : List.Forall₂ (Placed dir unmade d after) templates results) :
    templates.map (foreseen d dir) = beforehand results := by
  refine beforehand_eq_of_forall₂ (placed.imp ?_)
  intro t result each
  cases each with
  | present leads stood =>
    obtain ⟨n, found⟩ := stood.resolve_right id
    simp [foreseen, Disk.node?, same.mp leads, found, Status.beforehand]
  | created leads free => simp [foreseen, Disk.node?, same.mp leads, free, Status.beforehand]

/-- With the directory missing, a dry run plans every template. -/
theorem planned_iff_created {made : Location → Prop} {results : List (Path × Status)}
    (placed : List.Forall₂ (Placed dir made d after) templates results) :
    (templates.map fun t => (target dir t, Status.planned)) = beforehand results ↔
      ∀ result ∈ results, result.2 = .created := by
  induction placed with
  | nil => simp [beforehand]
  | cons first _ ih =>
    rw [beforehand, List.map_cons, List.map_cons, List.cons.injEq, ← beforehand, ih, List.forall_mem_cons]
    refine and_congr_left' ?_
    cases first <;> simp [Status.beforehand]

/-- What a run makes on the way to its directory is no place of a template, if the path of the
directory goes straight down. -/
theorem target_not_through {n : Node} {place : Location} (valid : Node.IsName t.file)
    (straight : ".." ∉ dir.parts) (leads : after.locate (target dir t) = .ok place) :
    ¬ after.Through dir place n := by
  rintro ⟨_, front, last, begins, walked, onWay⟩
  obtain ⟨above, walkedAbove, _, rfl⟩ := locate_target valid leads
  have whole := Disk.walk_down straight walkedAbove
  have part := Disk.walk_down (fun up => straight (begins.subset up)) walked
  have shorter := begins.length_le
  have longer := onWay.length_le
  simp [whole, part] at longer
  omega

/-- Where the directory was missing and its path goes straight down, every template is written. -/
theorem Placed.created_of_missing {base : Disk} {result : Path × Status} {above : Location}
    (placed : Placed dir unmade base after t result) (valid : Node.IsName t.file)
    (straight : ".." ∉ dir.parts) (grown : d.GrownAt (after.Through dir) base)
    (here : after.start dir = d.start dir) (reach : after.locate dir = .ok above)
    (missing : d.holds dir = .ok false) :
    Placed dir unmade d after t result ∧ result.2 = .created := by
  cases placed with
  | present leads stood =>
    obtain ⟨n, found⟩ := stood.resolve_right id
    have free := at?_target_of_missing valid straight here reach leads missing
    rcases grown.places _ with same | ⟨_, _, _, way⟩
    · rw [Disk.surface?_eq_none.mpr free, Disk.surface?_eq_none, found] at same
      cases same
    · exact absurd way (target_not_through valid straight leads)
  | created leads free stands =>
    exact ⟨.created leads (at?_target_of_missing valid straight here reach leads missing) stands, rfl⟩

/-- So a dry run, which plans them all, tells what comes of them. -/
theorem created_of_missing {base : Disk} {results : List (Path × Status)} {above : Location}
    (valid : ∀ t ∈ templates, Node.IsName t.file)
    (placed : List.Forall₂ (Placed dir unmade base after) templates results)
    (straight : ".." ∉ dir.parts) (grown : d.GrownAt (after.Through dir) base)
    (here : after.start dir = d.start dir) (reach : after.locate dir = .ok above)
    (missing : d.holds dir = .ok false) :
    List.Forall₂ (Placed dir unmade d after) templates results ∧
      (templates.map fun t => (target dir t, Status.planned)) = beforehand results := by
  have created : List.Forall₂ (fun t result => Placed dir unmade d after t result ∧
      result.2 = .created) templates results :=
    ((List.forall₂_and_left ..).mpr ⟨valid, placed⟩).imp fun _ _ ⟨name, each⟩ =>
      each.created_of_missing name straight grown here reach missing
  refine ⟨created.imp fun _ _ => And.left, beforehand_eq_of_forall₂ (created.imp ?_)⟩
  rintro t result ⟨each, new⟩
  cases each with
  | present => cases new
  | created => rfl

/-- Every template that has been placed can be asked for. -/
theorem leads_of_placed {made : Location → Prop} {results : List (Path × Status)}
    (placed : List.Forall₂ (Placed dir made d after) templates results) :
    ∀ t ∈ templates, ∃ place, after.locate (target dir t) = .ok place := by
  induction placed with
  | nil => exact List.forall_mem_nil _
  | cons first _ ih => exact List.forall_mem_cons.mpr ⟨first.leads, ih⟩

/-- A dry run never has to make the directory. -/
theorem run_dry {found : Bool} (asked : d.holds dir = .ok found) :
    run true dir d templates = place true dir d templates := by
  rw [run, asked]
  rfl

/-- A run never changes a file that was there, however it ends, and a dry run changes nothing at all.
If a real run ends well, then it has done what it should and nothing else. -/
theorem run_finished (dir : Path) (d : Disk) {templates : List Template}
    (valid : ∀ t ∈ templates, Node.IsName t.file) (distinct : (templates.map (·.file)).Nodup) :
    (∀ dryRun place content, d.top.at? place = some (.file content) →
      (run dryRun dir d templates).disk.top.at? place = some (.file content)) ∧
    (run true dir d templates).disk = d ∧
    ((run false dir d templates).fault = none →
      Finished dir d templates (run true dir d templates) (run false dir d templates)
        (run false dir (run false dir d templates).disk templates)) := by
  refine ⟨fun dryRun place content stood => (run_grownAt valid dryRun).file stood, ?_, ?_⟩
  · rw [run]
    rcases d.holds dir with f | found
    · rfl
    · exact place_dry_disk dir d templates
  · intro ended
    obtain ⟨found, base, made, asked, unchanged, grown, settled, real⟩ := run_settles ended
    rw [real] at ended ⊢
    obtain ⟨more, same⟩ := @place_grownAt dir base templates valid
    have each := place_placed valid distinct ended
    obtain ⟨above, leads⟩ := settled.leads
    have reach := more.locate leads
    have dry := @run_dry dir d templates found asked
    have grownOn : d.GrownAt ((place false dir base templates).disk.Through dir) base :=
      grown.mono fun _ _ => more.through rfl List.prefix_rfl
    have askable : ∀ t ∈ templates, ∃ b, d.holds (target dir t) = .ok b := by
      intro t member
      obtain ⟨_, there⟩ := leads_of_placed each t member
      exact ⟨_, Disk.holds_of_locate_other there⟩
    have planned (missing : d.holds dir = .ok false) : ∀ t ∈ templates,
        d.holds (target dir t) = .ok false := by
      intro t member
      obtain ⟨_, there⟩ := leads_of_placed each t member
      exact holds_target_of_missing (valid t member) reach there missing
    refine ⟨?_, ?_, ?_, ?_, ?_, settled.idle valid distinct ended⟩
    · refine each.imp fun t result placed => placed.before fun place _ => ?_
      refine (grownOn.places place).imp_right ?_
      rintro ⟨free, n, _, rfl, way⟩
      exact ⟨free, rfl, way⟩
    · refine (grownOn.mono fun _ _ => .inl).trans (more.mono ?_)
      rintro place n ⟨t, member, led, file⟩
      exact .inr ⟨t, member, more.locate led, file⟩
    · rw [dry, place_dry askable]
    · intro condition
      cases found with
      | true =>
        obtain rfl := unchanged rfl
        refine ⟨each, ?_⟩
        rw [dry, place_dry askable]
        exact foreseen_of_placed (Disk.locate_congr same more.here) each
      | false =>
        have straight := condition.resolve_left (by simp [asked])
        have start := (more.start dir).trans (grown.start dir)
        rw [dry, place_dry_missing (planned asked)]
        exact created_of_missing valid each straight grownOn start reach asked
    · intro missing
      rw [dry, place_dry_missing (planned missing)]
      exact planned_iff_created each

def shelf : Disk := { top := .directory [("b", .directory [("f.ts", .file [0x78])])] }

def pair : List Template := [⟨"f.ts", "y"⟩, ⟨"g.ts", "y"⟩]

/-- Of the two templates the other one is written. -/
theorem pair_finished :
    (run false ⟨.relative, ["b"]⟩ shelf pair).results =
      [(⟨.relative, ["b", "f.ts"]⟩, .present), (⟨.relative, ["b", "g.ts"]⟩, .created)] ∧
    Finished ⟨.relative, ["b"]⟩ shelf pair (run true ⟨.relative, ["b"]⟩ shelf pair)
      (run false ⟨.relative, ["b"]⟩ shelf pair)
      (run false ⟨.relative, ["b"]⟩ (run false ⟨.relative, ["b"]⟩ shelf pair).disk pair) := by
  have valid : ∀ t ∈ pair, Node.IsName t.file := by
    intro t member
    rcases List.mem_cons.mp member with rfl | later
    · exact ⟨by decide, by decide, by decide, by decide⟩
    · obtain rfl := List.mem_singleton.mp later
      exact ⟨by decide, by decide, by decide, by decide⟩
  have distinct : (pair.map (·.file)).Nodup := by decide
  have ended : (run false ⟨.relative, ["b"]⟩ shelf pair).fault = none := by decide +kernel
  exact ⟨by decide +kernel, (run_finished _ shelf valid distinct).2.2 ended⟩

/-- The path steps into a directory that is missing and up again, into one that holds the file. A dry
run plans a template that the real one finds there. -/
theorem step_up_unforeseen :
    (run false ⟨.relative, ["a", "..", "b"]⟩ shelf [⟨"f.ts", "y"⟩]).fault = none ∧
    (run false ⟨.relative, ["a", "..", "b"]⟩ shelf [⟨"f.ts", "y"⟩]).results =
      [(⟨.relative, ["a", "..", "b", "f.ts"]⟩, .present)] ∧
    (run true ⟨.relative, ["a", "..", "b"]⟩ shelf [⟨"f.ts", "y"⟩]).results =
      [(⟨.relative, ["a", "..", "b", "f.ts"]⟩, .planned)] := by
  decide +kernel

end Utility.Creation

end CloneScan
