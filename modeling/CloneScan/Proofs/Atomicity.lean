import CloneScan.Proofs.Storage

/-! A report is saved as a whole or not at all. The place beside it is the only other one that a save
touches, and it is never the place of the report itself, so whoever reads the report after a refused
save finds what was there before. -/
namespace CloneScan

/-- The name beside a path is neither empty nor a step up. -/
theorem Path.endsInName_beside {p beside : Path}
    (named : p.extend? Store.temporarySuffix = some beside) : beside.endsInName = true := by
  have length : 4 ≤ beside.name.length := by
    rw [(Path.extend?_eq_some named).2.2, String.length_append]
    exact Nat.le_add_left _ _
  have apart (short : String) (few : short.length < 4) : beside.name ≠ short := by
    rintro rfl
    omega
  simp [Path.endsInName, apart "" (by decide), apart ".." (by decide)]

namespace Disk

open Node (SameDirectories)

/-- A disk after a change: every path leads where it led, and what stands at a place is what stood
there before, but for some places. -/
structure ChangedOnlyAt (changed : Location → Prop) (d after : Disk) : Prop where
  frame : after = { d with top := after.top }
  paths : ∀ p place, after.locate p = .ok place ↔ d.locate p = .ok place
  places : ∀ place, ¬ changed place → after.top.surface? place = d.top.surface? place

theorem ChangedOnlyAt.refl (changed : Location → Prop) (d : Disk) : d.ChangedOnlyAt changed d :=
  ⟨rfl, fun _ _ => Iff.rfl, fun _ _ => rfl⟩

/-- Renaming changes the tree and nothing else. -/
theorem rename_frame {d e : Disk} {p q : Path} (renamed : d.rename p q = .ok e) :
    e = { d with top := e.top } := by
  obtain ⟨_, _, _, _, _, _, _, _, _, rfl⟩ := rename_eq_ok.mp renamed
  rfl

theorem walk_append (top : Node) (place : Location) (front back : List String) :
    walk top place (front ++ back) = (walk top place front).bind fun above => walk top above back := by
  induction front generalizing place with
  | nil => rfl
  | cons part front ih =>
    rw [List.cons_append, walk, walk]
    cases top.at? place with
    | none => rfl
    | some n =>
      cases n with
      | file content => rfl
      | directory entries =>
        by_cases long : longestName < part.utf8ByteSize
        · simp only [if_pos long, Except.bind]
        · simp only [if_neg long, ih]

theorem walk_name {top : Node} {above : Location} (inside : top.isDirectoryAt above = true)
    (name : String) :
    walk top above [name] =
      if longestName < name.utf8ByteSize then .error .nameTooLong else .ok (step above name) := by
  rw [Node.isDirectoryAt] at inside
  rw [walk]
  cases found : top.at? above with
  | none => simp [found] at inside
  | some n =>
    cases n with
    | file content => simp [found, Node.isDirectory] at inside
    | directory entries => rfl

/-- What is asked of a path is answered by where it leads and by what is seen there. -/
theorem read_congr {d after : Disk} {p : Path} (located : after.locate p = d.locate p)
    (seen : ∀ place, d.locate p = .ok place → after.top.surface? place = d.top.surface? place) :
    after.isFile p = d.isFile p ∧ after.read p = d.read p := by
  cases leads : d.locate p with
  | error cause =>
    rw [leads] at located
    simp [isFile, look, node?, read, located, leads]
  | ok place =>
    rw [leads] at located
    have same := seen place leads
    simp only [isFile, look, node?, read, located, leads]
    rw [Node.surface?, Node.surface?] at same
    cases now : after.top.at? place with
    | none =>
      rw [now, Option.map_none, eq_comm, Option.map_eq_none_iff] at same
      simp [same]
    | some m =>
      rw [now, Option.map_some, eq_comm, Option.map_eq_some_iff] at same
      obtain ⟨n, before, surface⟩ := same
      rw [before]
      cases m <;> cases n <;> simp_all [Node.surface, Except.map, Node.isFile]

structure Beside (d : Disk) (p : Path) (place : Location) : Prop where
  filled : p.parts ≠ []
  place : ∃ above, walk d.top (d.start p) p.parts.dropLast = .ok above ∧
    d.top.isDirectoryAt above = true ∧ place = above ++ [p.name ++ Store.temporarySuffix]

theorem beside_of_locate {d : Disk} {p beside : Path} {place : Location}
    (named : p.extend? Store.temporarySuffix = some beside) (found : d.locate beside = .ok place) :
    d.Beside p place := by
  obtain ⟨anchor, siblings, name⟩ := Path.extend?_eq_some named
  obtain ⟨above, walked, inside, rfl⟩ := locate_named (Path.endsInName_beside named) found
  have start : d.start beside = d.start p := by rw [Disk.start, Disk.start, anchor]
  rw [start, siblings] at walked
  refine ⟨?_, above, walked, inside, by rw [name]⟩
  intro none
  simp [Path.extend?, none] at named

/-- A path never leads to the place beside it. -/
theorem Beside.apart {d : Disk} {p : Path} {place other : Location} (beside : d.Beside p place)
    (leads : d.locate p = .ok other) : other ≠ place := by
  obtain ⟨above, walked, _, rfl⟩ := beside.place
  obtain ⟨_, _, whole⟩ := locate_eq_ok.mp leads
  rw [Path.parts_eq beside.filled] at whole
  obtain ⟨there, front, _, _, rfl⟩ := (walk_concat ..).mp whole
  obtain rfl : above = there := Except.ok.inj (walked.symm.trans front)
  intro same
  rw [step] at same
  split at same
  · have lengths := congrArg List.length same
    simp only [List.length_dropLast, List.length_append, List.length_singleton] at lengths
    omega
  · have names := List.singleton_inj.mp (List.append_cancel_left same)
    have lengths := congrArg String.length names
    simp [Store.temporarySuffix] at lengths

/-- A path leads where it led, or nowhere for the same cause, as long as the directories stay. -/
theorem Beside.locate_eq {d after : Disk} {p : Path} {place : Location} (beside : d.Beside p place)
    (here : after.here = d.here) (same : SameDirectories after.top d.top) :
    after.locate p = d.locate p := by
  obtain ⟨above, walked, inside, _⟩ := beside.place
  have start : after.start p = d.start p := by rw [Disk.start, Disk.start, here]
  have walks : walk after.top (d.start p) p.parts = walk d.top (d.start p) p.parts := by
    rw [Path.parts_eq beside.filled, walk_append, walk_append, walked,
      (walk_congr same _ _ _).mpr walked]
    simp only [Except.bind]
    rw [walk_name inside, walk_name ((same above).trans inside)]
  have opened (e : Disk) : e.locate p =
      if p.hasNull then .error .nullCharacter
      else if longestPath < p.text.utf8ByteSize then .error .nameTooLong
      else walk e.top (e.start p) p.parts := rfl
  rw [opened, opened, start, walks]

theorem Beside.place_eq {d : Disk} {p : Path} {place above : Location} (beside : d.Beside p place)
    (named : p.endsInName = true) (leads : d.locate p = .ok (above ++ [p.name])) :
    place = above ++ [p.name ++ Store.temporarySuffix] := by
  obtain ⟨_, walked, _, rfl⟩ := beside.place
  obtain ⟨there, front, _, same⟩ := locate_named named leads
  obtain rfl := Except.ok.inj (walked.symm.trans front)
  rw [List.append_cancel_right same]

theorem Beside.changedOnlyAt_put {d : Disk} {p : Path} {place : Location} (beside : d.Beside p place)
    (free : d.top.isDirectoryAt place = false) (content : List UInt8) :
    d.ChangedOnlyAt (· = place) (d.put place content) ∧
      (d.put place content).locate p = d.locate p := by
  obtain ⟨above, _, inside, rfl⟩ := beside.place
  have same := Node.put_sameDirectories inside free content
  refine ⟨⟨rfl, fun q other => @locate_congr d (d.put _ content) same rfl q other, ?_⟩,
    beside.locate_eq rfl same⟩
  intro other apart
  rw [put, Node.surface?_put inside free, if_neg apart]

end Disk

namespace Store

theorem load_congr {d after : Disk} {path : Path} (isFile : after.isFile path = d.isFile path)
    (read : after.read path = d.read path) : load after path = load d path := by
  simp only [load, readText, isFile, read]

/-- A refused save has changed nothing, or has put a file beside the report. -/
theorem save_eq_some {settings : Settings} {r : Report} {d after : Disk} {path : Path} {f : Fault}
    (refused : save settings r d path = (after, some f)) :
    after = d ∨ ∃ beside place content, path.extend? temporarySuffix = some beside ∧
      d.locate beside = .ok place ∧ d.top.isDirectoryAt place = false ∧
      after = d.put place content := by
  unfold save at refused
  rw [Path.withSuffix?_suffix] at refused
  cases named : path.extend? temporarySuffix with
  | none =>
    simp only [named, Prod.mk.injEq] at refused
    exact .inl refused.1.symm
  | some beside =>
    simp only [named] at refused
    split at refused
    · exact .inl (Prod.mk.inj refused).1.symm
    next wrote _ =>
      obtain ⟨place, found, free, rfl⟩ := Disk.write_eq_ok.mp wrote
      exact .inr ⟨beside, place, _, rfl, found, free, (Prod.mk.inj refused).1.symm⟩
    next wrote _ =>
      obtain ⟨place, found, free, rfl⟩ := Disk.write_eq_ok.mp wrote
      split at refused
      · cases (Prod.mk.inj refused).2
      · exact .inr ⟨beside, place, _, rfl, found, free, (Prod.mk.inj refused).1.symm⟩

/-- A saved report stands at its path as a whole, and nothing stands beside it. -/
theorem saved_whole {settings : Settings} {r : Report} {d after : Disk} {path : Path}
    (saved : save settings r d path = (after, none)) :
    ∃ beside place besidePlace text,
      path.extend? temporarySuffix = some beside ∧
      d.locate path = .ok place ∧ d.locate beside = .ok besidePlace ∧
      r.render .json settings = .ok text ∧
      after.read path = .ok (Text.Utf8.encode text) ∧ after.holds beside = .ok false ∧
      d.ChangedOnlyAt (fun other => other = place ∨ other = besidePlace) after := by
  have steps := @save_eq_none settings r d path (by rw [saved])
  rw [saved] at steps
  obtain ⟨beside, written, named, rendered, wrote, renamed⟩ := steps
  obtain ⟨anchor, siblings, name⟩ := Path.extend?_eq_some named
  obtain ⟨above, replaced⟩ := Disk.replaced_of_rename anchor siblings wrote renamed
  obtain ⟨first, found, _, rfl⟩ := Disk.write_eq_ok.mp wrote
  have targeted := (Disk.rename_eq_ok.mp renamed).2.1
  have there := Disk.beside_of_locate named found
  obtain rfl := there.place_eq targeted replaced.located
  rw [name] at replaced
  have apart := (there.apart replaced.located).symm
  have paths (p : Path) (place : Location) :=
    @Disk.locate_congr d after replaced.directories replaced.here p place
  have gone : after.top.at? (above ++ [path.name ++ temporarySuffix]) = none := by
    have seen := replaced.surface (above ++ [path.name ++ temporarySuffix])
    rw [if_neg apart, if_pos rfl] at seen
    exact Option.map_eq_none_iff.mp seen
  have frame : after = { d with top := after.top } :=
    @Disk.rename_frame (d.put _ _) after _ _ renamed
  refine ⟨beside, _, _, _, named, replaced.located, found, rendered, replaced.read.2, ?_,
    frame, paths, ?_⟩
  · simp [Disk.holds, Disk.look, Disk.node?, (paths _ _).mpr found, gone, Except.map]
  · intro other changed
    rw [not_or] at changed
    rw [replaced.surface, if_neg changed.1, if_neg changed.2]

/-- A refused save changes nothing but what stands beside the report. -/
theorem refused_keeps {settings : Settings} {r : Report} {d after : Disk} {path : Path} {f : Fault}
    (refused : save settings r d path = (after, some f)) :
    d.ChangedOnlyAt (fun other => ∃ beside,
      path.extend? temporarySuffix = some beside ∧ d.locate beside = .ok other) after ∧
    load after path = load d path := by
  rcases save_eq_some refused with rfl | ⟨beside, place, content, named, found, free, rfl⟩
  · exact ⟨.refl _ _, rfl⟩
  · have there := Disk.beside_of_locate named found
    obtain ⟨changed, located⟩ := there.changedOnlyAt_put free content
    refine ⟨⟨changed.frame, changed.paths, fun other apart => changed.places other ?_⟩, ?_⟩
    · rintro rfl
      exact apart ⟨beside, named, found⟩
    · obtain ⟨isFile, read⟩ := Disk.read_congr located fun other leads =>
        changed.places other (there.apart leads)
      exact load_congr isFile read

/-- A saved report stands at its path as a whole, nothing is left beside it and nothing else has
changed. If the report is not saved, nothing has changed but what stands beside it, and the path is
read as it was before. -/
theorem save_atomic (settings : Settings) (r : Report) (d : Disk) (path : Path) :
    match save settings r d path with
    | (after, none) =>
      ∃ beside place besidePlace text,
        path.extend? temporarySuffix = some beside ∧
        d.locate path = .ok place ∧ d.locate beside = .ok besidePlace ∧
        r.render .json settings = .ok text ∧
        after.read path = .ok (Text.Utf8.encode text) ∧ after.holds beside = .ok false ∧
        d.ChangedOnlyAt (fun other => other = place ∨ other = besidePlace) after
    | (after, some _) =>
      d.ChangedOnlyAt (fun other => ∃ beside,
        path.extend? temporarySuffix = some beside ∧ d.locate beside = .ok other) after ∧
      load after path = load d path := by
  cases ended : save settings r d path with
  | mk after outcome =>
    cases outcome with
    | none => exact saved_whole ended
    | some f => exact refused_keeps ended

end Store

end CloneScan
