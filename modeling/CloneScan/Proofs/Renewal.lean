import CloneScan.Proofs.Answering
import CloneScan.Proofs.Creation
import CloneScan.Proofs.Search

/-! Writing again what stands there already. A file that is put where it stands changes nothing, and
one that is put where nothing was can be taken away without a trace. So a save that follows on the
same save leaves the disk as it is, and so does one that is followed by the same copy. -/
namespace CloneScan

namespace Node

/-! ## Putting and taking away -/

theorem lookup_split {entries : List (String × Node)} {name : String} {n : Node}
    (entry : entries.lookup name = some n) :
    ∃ before after, entries = before ++ (name, n) :: after ∧
      ∀ f, alter name f entries = before ++ (name, f (some n)) :: after := by
  induction entries with
  | nil => cases entry
  | cons e rest ih =>
    obtain ⟨key, m⟩ := e
    rw [List.lookup_cons] at entry
    by_cases same : name = key
    · subst key
      obtain rfl : m = n := by simpa using entry
      exact ⟨[], rest, rfl, fun f => if_pos rfl⟩
    · rw [beq_false_of_ne same] at entry
      obtain ⟨before, after, split, altered⟩ := ih entry
      refine ⟨(key, m) :: before, after, by rw [split, List.cons_append], fun f => ?_⟩
      rw [alter, if_neg (Ne.symm same), altered, List.cons_append]

theorem alter_absent {entries : List (String × Node)} {name : String}
    (absent : entries.lookup name = none) (f : Option Node → Node) :
    alter name f entries = entries ++ [(name, f none)] := by
  induction entries with
  | nil => rfl
  | cons e rest ih =>
    obtain ⟨key, m⟩ := e
    rw [List.lookup_cons] at absent
    by_cases same : name = key
    · simp [same] at absent
    · rw [beq_false_of_ne same] at absent
      rw [alter, if_neg (Ne.symm same), ih absent, List.cons_append]

theorem map_entry_absent {entries : List (String × Node)} {name : String}
    (absent : ∀ e ∈ entries, e.1 ≠ name) (f : Node → Node) :
    (entries.map fun (key, n) => (key, if key = name then f n else n)) = entries := by
  conv_rhs => rw [← List.map_id entries]
  refine List.map_congr_left fun e member => ?_
  dsimp only
  rw [if_neg (absent e member)]
  rfl

/-- What stands at a place can be put there again. -/
theorem put_self {place : Location} {n stands : Node} (found : n.at? place = some stands) :
    n.put place stands = n := by
  induction place generalizing n with
  | nil =>
    rw [at?_nil] at found
    obtain rfl := Option.some.inj found
    cases n <;> rfl
  | cons name rest ih =>
    cases n with
    | file content => rfl
    | directory entries =>
      obtain ⟨m, entry, below⟩ := Option.bind_eq_some_iff.mp found
      obtain ⟨before, after, split, altered⟩ := lookup_split entry
      rw [put, altered, Option.getD_some, ih below, ← split]

/-- What is put where nothing was leaves no trace when it is taken away. -/
theorem erase_put {above : Location} {name : String} {n : Node} (valid : n.WellNamed)
    (inside : n.isDirectoryAt above = true) (free : n.at? (above ++ [name]) = none) (new : Node) :
    (n.put (above ++ [name]) new).erase (above ++ [name]) = n := by
  induction above generalizing n with
  | nil =>
    cases n with
    | file content => cases inside
    | directory entries =>
      have absent : entries.lookup name = none := by
        simpa [at?, Option.bind_eq_none_iff] using free
      have others : entries.filter (·.1 != name) = entries := by
        rw [List.filter_eq_self]
        intro e member
        exact bne_iff_ne.mpr fun same =>
          absurd (same ▸ rfl) (bne_iff_ne.mp (List.lookup_eq_none_iff.mp absent e member))
      rw [List.nil_append, put, alter_absent absent, erase, List.filter_append, others]
      simp
  | cons first above ih =>
    cases n with
    | file content => cases inside
    | directory entries =>
      rw [isDirectoryAt_cons] at inside
      obtain ⟨m, entry, below⟩ := (Option.any_eq_true ..).mp inside
      rw [List.cons_append, at?, entry, Option.bind_some] at free
      rw [WellNamed] at valid
      obtain ⟨before, after, split, altered⟩ := lookup_split entry
      have named := (wellNamed_entry valid.2 (e := (first, m)) (by simp [split])).2
      -- No other entry has the name that is altered.
      have others : ∀ e ∈ before ++ after, e.1 ≠ first := by
        intro e member same
        have nodup := valid.1
        rw [split, List.map_append, List.map_cons, List.nodup_middle, List.nodup_cons,
          ← List.map_append] at nodup
        exact nodup.1 (List.mem_map.mpr ⟨e, member, same⟩)
      rw [List.cons_append, put, altered, Option.getD_some, erase]
      · rw [List.map_append, List.map_cons,
          map_entry_absent fun e member => others e (List.mem_append_left _ member),
          map_entry_absent fun e member => others e (List.mem_append_right _ member)]
        dsimp only
        rw [if_pos rfl, ih named below free, ← split]
      · simp

/-! ## Names -/

theorem wellNamed_put {place : Location} {n new : Node} (valid : n.WellNamed)
    (inner : new.WellNamed) (names : ∀ name ∈ place, IsName name) :
    (n.put place new).WellNamed := by
  induction place generalizing n with
  | nil => cases n <;> exact inner
  | cons name rest ih =>
    have own := names name List.mem_cons_self
    have below {m : Node} (named : m.WellNamed) : (m.put rest new).WellNamed :=
      ih named fun other member => names other (List.mem_cons_of_mem _ member)
    cases n with
    | file content => trivial
    | directory entries =>
      rw [WellNamed, wellNamedBelow_iff] at valid
      rw [put, WellNamed, wellNamedBelow_iff]
      cases entry : entries.lookup name with
      | none =>
        have fresh : name ∉ entries.map (·.1) := by
          intro member
          obtain ⟨e, inside, rfl⟩ := List.mem_map.mp member
          simpa using List.lookup_eq_none_iff.mp entry e inside
        rw [alter_absent entry]
        constructor
        · rw [List.map_append, List.nodup_append]
          refine ⟨valid.1, List.nodup_singleton _, fun key member other last same => ?_⟩
          rw [List.map_singleton, List.mem_singleton] at last
          rw [same, last] at member
          exact fresh member
        · intro e member
          rcases List.mem_append.mp member with old | added
          · exact valid.2 e old
          · rw [List.mem_singleton.mp added]
            exact ⟨own, below (m := directory []) ⟨List.nodup_nil, trivial⟩⟩
      | some m =>
        obtain ⟨before, after, split, altered⟩ := lookup_split entry
        rw [altered]
        subst split
        constructor
        · simpa using valid.1
        · intro e member
          rcases List.mem_append.mp member with earlier | later
          · exact valid.2 e (List.mem_append_left _ earlier)
          · rcases List.mem_cons.mp later with rfl | last
            · exact ⟨own, below (valid.2 (name, m) (by simp)).2⟩
            · exact valid.2 e (by simp [last])

theorem wellNamed_erase (place : Location) {n : Node} (valid : n.WellNamed) :
    (n.erase place).WellNamed := by
  fun_induction erase place n with
  | case1 name entries =>
    rw [WellNamed, wellNamedBelow_iff] at valid ⊢
    refine ⟨valid.1.sublist (List.filter_sublist.map _), fun e member => ?_⟩
    exact valid.2 e (List.mem_filter.mp member).1
  | case2 name rest entries _ ih =>
    rw [WellNamed, wellNamedBelow_iff] at valid ⊢
    constructor
    · rw [List.map_map]
      exact valid.1
    · intro e member
      obtain ⟨⟨key, m⟩, inside, rfl⟩ := List.mem_map.mp member
      have named := valid.2 _ inside
      refine ⟨named.1, ?_⟩
      dsimp only
      split
      · exact ih _ named.2
      · exact named.2
  | case3 => exact valid

/-- The names on the way to what stands in a tree. -/
theorem names_of_at? {place : Location} {n stands : Node} (valid : n.WellNamed)
    (found : n.at? place = some stands) : ∀ name ∈ place, IsName name := by
  induction place generalizing n with
  | nil => simp
  | cons first rest ih =>
    cases n with
    | file content => cases found
    | directory entries =>
      obtain ⟨m, entry, below⟩ := Option.bind_eq_some_iff.mp found
      rw [WellNamed] at valid
      obtain ⟨before, after, split, _⟩ := lookup_split entry
      have named := wellNamed_entry valid.2 (e := (first, m)) (by simp [split])
      intro name member
      rcases List.mem_cons.mp member with rfl | later
      · exact named.1
      · exact ih named.2 below name later

end Node

namespace Path

/-- The last part of a path as it is read can be what a file is called. -/
theorem isName_ofText {s : String} (named : (ofText s).endsInName = true)
    (clean : (ofText s).hasNull = false) : Node.IsName (ofText s).name := by
  have member : (ofText s).name ∈ (ofText s).parts := by
    have parts : (ofText s).parts ≠ [] := by
      intro none
      simp [endsInName, name, none] at named
    rw [name, List.getLast?_eq_some_getLast parts, Option.getD_some]
    exact List.getLast_mem parts
  have noNull : '\x00' ∉ (ofText s).name.toList := by
    have each := List.any_eq_false.mp clean _ member
    simpa using each
  obtain ⟨piece, kept, spelled⟩ := List.mem_map.mp member
  obtain ⟨inside, filled⟩ := List.mem_filter.mp kept
  rw [Bool.and_eq_true, bne_iff_ne, bne_iff_ne] at filled
  rw [endsInName, Bool.and_eq_true, bne_iff_ne, bne_iff_ne] at named
  refine ⟨named.1, ⟨?_, named.2⟩, ?_, noNull⟩
  · intro dot
    rw [dot, ← String.toList_inj, String.toList_ofList] at spelled
    exact filled.2 spelled
  · rw [← spelled, String.toList_ofList]
    exact Text.not_mem_splitOn '/' s.toList piece inside

theorem isName_temporary {name : String} (noSlash : '/' ∉ name.toList)
    (noNull : '\x00' ∉ name.toList) : Node.IsName (name ++ Store.temporarySuffix) := by
  have apart (short : String) (few : short.length < 4) : name ++ Store.temporarySuffix ≠ short := by
    rintro rfl
    rw [String.length_append] at few
    exact absurd few (Nat.not_lt.mpr (Nat.le_add_left 4 _))
  refine ⟨apart "" (by decide), ⟨apart "." (by decide), apart ".." (by decide)⟩, ?_, ?_⟩
  all_goals
    rw [String.toList_append, List.mem_append]
    rintro (inside | inside)
    · contradiction
    · exact absurd inside (by decide)

/-- The name of a temporary file chooses no form. -/
theorem ofExtension?_temporary (name : String) :
    Report.Format.ofExtension? (.ofList (suffixOf (name ++ Store.temporarySuffix).toList)) =
      none := by
  have suffix : suffixOf (name ++ Store.temporarySuffix).toList =
      if name.toList.reverse.isEmpty then [] else Store.temporarySuffix.toList := by
    have ends : Store.temporarySuffix.toList = ['.', 't', 'm', 'p'] := by decide
    simp [suffixOf, ends, List.span_eq_takeWhile_dropWhile]
  rw [suffix]
  split <;> decide

end Path

namespace Disk

variable {d e : Disk} {place : Location}

theorem names_of_locate {p : Path} (valid : d.top.WellNamed) (named : p.endsInName = true)
    (own : Node.IsName p.name) (found : d.locate p = .ok place) :
    ∀ name ∈ place, Node.IsName name := by
  obtain ⟨above, _, inside, rfl⟩ := locate_named named found
  obtain ⟨stands, there, _⟩ := (Option.any_eq_true ..).mp inside
  intro name member
  rcases List.mem_append.mp member with upper | last
  · exact Node.names_of_at? valid there name upper
  · rw [List.mem_singleton.mp last]
    exact own

theorem wellNamed_put {p : Path} (valid : d.top.WellNamed) (named : p.endsInName = true)
    (own : Node.IsName p.name) (found : d.locate p = .ok place) (content : List UInt8) :
    (d.put place content).top.WellNamed :=
  Node.wellNamed_put valid trivial (names_of_locate valid named own found)

theorem wellNamed_write {s : String} {content : List UInt8} (valid : d.top.WellNamed)
    (named : (Path.ofText s).endsInName = true) (wrote : d.write (.ofText s) content = .ok e) :
    e.top.WellNamed := by
  obtain ⟨place, found, _, rfl⟩ := write_eq_ok.mp wrote
  exact wellNamed_put valid named (Path.isName_ofText named (locate_eq_ok.mp found).1) found _

end Disk

namespace Store

variable {d after last : Disk} {settings : Settings} {r : Report} {path : Path} {place : Location}

structure Ready (d : Disk) (path : Path) (place : Location) : Prop where
  wellNamed : d.top.WellNamed
  named : path.endsInName = true
  found : d.locate path = .ok place
  flat : d.top.isDirectoryAt place = false
  beside : ∃ beside spot, path.extend? temporarySuffix = some beside ∧
    d.locate beside = .ok spot ∧ d.top.at? spot = none

/-- The way of a save past the temporary file leaves no trace. -/
theorem Ready.save (ready : Ready d path place) {text : String}
    (rendered : r.render .json settings = .ok text) :
    Store.save settings r d path = (d.put place (Text.Utf8.encode text), none) := by
  obtain ⟨beside, spot, extended, foundBeside, free⟩ := ready.beside
  obtain ⟨above, _, inside, rfl⟩ := (Disk.beside_of_locate extended foundBeside).place
  have flat : d.top.isDirectoryAt (above ++ [path.name ++ temporarySuffix]) = false := by
    simp [Node.isDirectoryAt, free]
  have wrote : d.write beside (Text.Utf8.encode text) = .ok (d.put _ _) :=
    Disk.write_eq_ok.mpr ⟨_, foundBeside, flat, rfl⟩
  have step := Disk.filesChangedAt_put inside flat (Text.Utf8.encode text)
  have stands := Node.surface?_put inside flat (Text.Utf8.encode text)
    (above ++ [path.name ++ temporarySuffix])
  rw [if_pos rfl, Node.surface?_eq_file] at stands
  have renamed : (d.put (above ++ [path.name ++ temporarySuffix]) (Text.Utf8.encode text)).rename
      beside path = .ok (d.put place (Text.Utf8.encode text)) := by
    refine Disk.rename_eq_ok.mpr ⟨Path.endsInName_beside extended, ready.named, _, place, _,
      (step.paths _ _).mpr foundBeside, (step.paths _ _).mpr ready.found, stands,
      (step.directories place).trans ready.flat, ?_⟩
    rw [Disk.put, Disk.put, Node.erase_put ready.wellNamed inside free]
  simp only [Store.save, Path.withSuffix?_suffix, extended, rendered, wrote, renamed]

/-- A save leaves its path ready for another one. -/
theorem ready_of_saved {s : String} (valid : d.top.WellNamed)
    (saved : Store.save settings r d (.ofText s) = (after, none)) :
    ∃ place text, Ready after (.ofText s) place ∧ r.render .json settings = .ok text ∧
      after.top.at? place = some (.file (Text.Utf8.encode text)) := by
  obtain ⟨beside, place, spot, text, extended, found, foundBeside, rendered, read, gone, changed⟩ :=
    saved_whole saved
  have leads := (changed.paths _ _).mpr found
  have leadsBeside := (changed.paths _ _).mpr foundBeside
  have stands : after.top.at? place = some (.file (Text.Utf8.encode text)) := by
    rw [Disk.read, leads] at read
    dsimp only at read
    split at read <;> simp_all
  have free : after.top.at? spot = none := by
    rw [Disk.holds_of_locate leadsBeside] at gone
    simpa using gone
  have steps := @save_eq_none settings r d (.ofText s) (by rw [saved])
  rw [saved] at steps
  obtain ⟨again, written, same, _, wrote, renamed⟩ := steps
  obtain rfl := Option.some.inj (extended.symm.trans same)
  obtain ⟨besideNamed, named, source, target, content, atSource, atTarget, _, _, rfl⟩ :=
    Disk.rename_eq_ok.mp renamed
  have own := Path.isName_ofText named (Disk.locate_eq_ok.mp found).1
  have temporary : Node.IsName beside.name := by
    rw [(Path.extend?_eq_some extended).2.2]
    exact Path.isName_temporary own.noSlash own.noNull
  have valid : written.top.WellNamed := by
    obtain ⟨_, _, _, rfl⟩ := Disk.write_eq_ok.mp wrote
    exact Disk.wellNamed_put valid besideNamed temporary ‹_› _
  have inner : (Node.file content).WellNamed := trivial
  have wellNamed := Node.wellNamed_put (Node.wellNamed_erase source valid) inner
    (Disk.names_of_locate valid named own atTarget)
  refine ⟨place, text, ⟨wellNamed, named, leads, ?_, beside, spot, extended, leadsBeside, free⟩,
    rendered, stands⟩
  rw [Node.isDirectoryAt, stands]
  rfl

/-- A copy does not stand beside the report, so the path stays ready. -/
theorem Ready.write {t : String} {content : List UInt8} {format : Report.Format}
    (ready : Ready d path place)
    (extension : Report.Format.ofExtension? (Path.ofText t).suffix = some format)
    (wrote : d.write (.ofText t) content = .ok last) : Ready last path place := by
  have named := Path.endsInName_of_extension extension
  have step := Disk.filesChangedAt_write named wrote
  refine ⟨Disk.wellNamed_write ready.wellNamed named wrote, ready.named,
    (step.paths _ _).mpr ready.found, (step.directories place).trans ready.flat, ?_⟩
  obtain ⟨beside, spot, extended, foundBeside, free⟩ := ready.beside
  refine ⟨beside, spot, extended, (step.paths _ _).mpr foundBeside, ?_⟩
  have apart : d.locate (.ofText t) ≠ .ok spot := by
    intro leads
    obtain ⟨above, _, _, there⟩ := Disk.locate_named named leads
    obtain ⟨other, _, _, here⟩ := (Disk.beside_of_locate extended foundBeside).place
    obtain ⟨_, names⟩ := List.append_inj' (there.symm.trans here) rfl
    rw [Path.suffix, List.singleton_inj.mp names, Path.ofExtension?_temporary] at extension
    cases extension
  exact Disk.surface?_eq_none.mp
    ((step.places spot apart).trans (Disk.surface?_eq_none.mpr free))

/-- The same save again changes nothing. -/
theorem save_again {s : String} (valid : d.top.WellNamed)
    (saved : Store.save settings r d (.ofText s) = (after, none)) :
    Store.save settings r after (.ofText s) = (after, none) := by
  obtain ⟨place, text, ready, rendered, stands⟩ := ready_of_saved valid saved
  rw [ready.save rendered, Disk.put, Node.put_self stands]

/-- Neither do the same save and the same copy again, wherever the copy stands. -/
theorem save_and_copy_again {s t : String} {content : List UInt8} {format : Report.Format}
    (valid : d.top.WellNamed) (saved : Store.save settings r d (.ofText s) = (after, none))
    (extension : Report.Format.ofExtension? (Path.ofText t).suffix = some format)
    (wrote : after.write (.ofText t) content = .ok last) :
    ∃ mid, Store.save settings r last (.ofText s) = (mid, none) ∧
      mid.write (.ofText t) content = .ok last := by
  obtain ⟨place, text, ready, rendered, stands⟩ := ready_of_saved valid saved
  have still := ready.write extension wrote
  have named := Path.endsInName_of_extension extension
  obtain ⟨target, found, flat, rfl⟩ := Disk.write_eq_ok.mp wrote
  refine ⟨_, still.save rendered, Disk.write_eq_ok.mpr ?_⟩
  obtain ⟨above, _, inside, rfl⟩ := Disk.locate_named named found
  -- the second save renews the report, or puts it in the place of the copy once more
  have renewed : ∃ octets, (after.put (above ++ [(Path.ofText t).name]) content).put place
      (Text.Utf8.encode text) = after.put (above ++ [(Path.ofText t).name]) octets := by
    by_cases same : place = above ++ [(Path.ofText t).name]
    · refine ⟨Text.Utf8.encode text, ?_⟩
      rw [same, Disk.put, Disk.put, Disk.put, Node.put_put]
    · have surface := Node.surface?_put inside flat content place
      rw [if_neg same, Node.surface?_eq_file.mpr stands, Node.surface?_eq_file] at surface
      refine ⟨content, ?_⟩
      rw [Disk.put, Disk.put, Node.put_self surface]
  obtain ⟨octets, renewed⟩ := renewed
  have step := Disk.filesChangedAt_put inside flat octets
  rw [renewed]
  refine ⟨_, (step.paths _ _).mpr found, (step.directories _).trans flat, ?_⟩
  rw [Disk.put, Disk.put, Disk.put, Node.put_put]

end Store

end CloneScan
