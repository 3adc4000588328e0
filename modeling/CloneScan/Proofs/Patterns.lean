import CloneScan.Text.Alphanumeric
import Mathlib.Data.List.Basic
import Mathlib.Data.List.Induction

/-! Patterns of text, and which parts of a text they describe. What a pattern describes depends on the
text around only through the word characters next to it (`Describes.congr`), so a part that a pattern
describes is described in every line-wise context. Looking for a pattern tries all the ways in which it
describes the front of a text (`mem_tries`). -/
namespace CloneScan

inductive Pattern where
  /-- A fixed spelling. -/
  | mark (spelling : String)
  /-- One character of a class. -/
  | one (fits : Char → Bool)
  /-- Any number of characters of a class. -/
  | many (fits : Char → Bool)
  /-- A place where a word starts or ends. -/
  | edge
  | next (first second : Pattern)
  | either (first second : Pattern)

namespace Pattern

def inOrder : List Pattern → Pattern
  | [] => mark ""
  | p :: rest => next p (inOrder rest)

def anyOf : List Pattern → Pattern
  | [] => one fun _ => false
  | p :: rest => either p (anyOf rest)

def wordBefore (before : List Char) : Bool := before.getLast?.any Text.isWordChar

def wordAfter (after : List Char) : Bool := after.head?.any Text.isWordChar

/-- The pattern describes the part of a text that stands between two others. -/
def Describes : Pattern → List Char → List Char → List Char → Prop
  | mark spelling, _, found, _ => found = spelling.toList
  | one fits, _, found, _ => ∃ c, fits c = true ∧ found = [c]
  | many fits, _, found, _ => ∀ c ∈ found, fits c = true
  | edge, before, found, after => found = [] ∧ wordBefore before ≠ wordAfter after
  | next p q, before, found, after => ∃ front back, found = front ++ back ∧
      p.Describes before front (back ++ after) ∧ q.Describes (before ++ front) back after
  | either p q, before, found, after => p.Describes before found after ∨ q.Describes before found after

def Occurs (p : Pattern) (s : List Char) : Prop :=
  ∃ before found after, s = before ++ found ++ after ∧ p.Describes before found after

def Opens (p : Pattern) (before rest : List Char) : Prop :=
  ∃ found after, rest = found ++ after ∧ p.Describes before found after

variable {p q : Pattern} {before found after s : List Char} {fits : Char → Bool}

theorem occurs_iff_opens : p.Occurs s ↔ ∃ before rest, s = before ++ rest ∧ p.Opens before rest := by
  constructor
  · rintro ⟨before, found, after, rfl, described⟩
    exact ⟨before, found ++ after, List.append_assoc .., found, after, rfl, described⟩
  · rintro ⟨before, _, rfl, found, after, rfl, described⟩
    exact ⟨before, found, after, (List.append_assoc ..).symm, described⟩

theorem occurs_either : (either p q).Occurs s ↔ p.Occurs s ∨ q.Occurs s := by
  constructor
  · rintro ⟨before, found, after, split, first | second⟩
    · exact .inl ⟨before, found, after, split, first⟩
    · exact .inr ⟨before, found, after, split, second⟩
  · rintro (⟨before, found, after, split, first⟩ | ⟨before, found, after, split, second⟩)
    · exact ⟨before, found, after, split, .inl first⟩
    · exact ⟨before, found, after, split, .inr second⟩

theorem occurs_anyOf {ps : List Pattern} : (anyOf ps).Occurs s ↔ ∃ p ∈ ps, p.Occurs s := by
  induction ps with
  | nil => simp [anyOf, Occurs, Describes]
  | cons p rest ih => simp [anyOf, occurs_either, ih]

theorem occurs_mark {spelling : String} : (mark spelling).Occurs s ↔ spelling.toList <:+: s := by
  simp only [Occurs, Describes, List.IsInfix, eq_comm]
  constructor
  · rintro ⟨before, _, after, split, rfl⟩
    exact ⟨before, after, split⟩
  · rintro ⟨before, after, split⟩
    exact ⟨before, _, after, split, rfl⟩

/-! ## Opening a text -/

theorem opens_mark {spelling : String} :
    (mark spelling).Opens before s ↔ ∃ rest, s = spelling.toList ++ rest := by
  simp [Opens, Describes]

theorem opens_either : (either p q).Opens before s ↔ p.Opens before s ∨ q.Opens before s := by
  simp only [Opens, Describes, and_or_left, exists_or]

theorem opens_anyOf {ps : List Pattern} : (anyOf ps).Opens before s ↔ ∃ p ∈ ps, p.Opens before s := by
  induction ps with
  | nil => simp [anyOf, Opens, Describes]
  | cons p rest ih => simp [anyOf, opens_either, ih]

/-- What opens with one pattern after the other has a part for the first one, and the second one opens
what is behind. -/
theorem opens_next : (next p q).Opens before s ↔
    ∃ front rest, s = front ++ rest ∧ p.Describes before front rest ∧ q.Opens (before ++ front) rest := by
  constructor
  · rintro ⟨_, after, rfl, front, back, rfl, first, second⟩
    exact ⟨front, back ++ after, List.append_assoc .., first, back, after, rfl, second⟩
  · rintro ⟨front, _, rfl, first, back, after, rfl, second⟩
    exact ⟨front ++ back, after, (List.append_assoc ..).symm, front, back, rfl, first, second⟩

theorem opens_assoc {r : Pattern} :
    (next (next p q) r).Opens before s ↔ (next p (next q r)).Opens before s := by
  rw [opens_next, opens_next]
  constructor
  · rintro ⟨_, rest, rfl, ⟨left, right, rfl, first, second⟩, third⟩
    rw [← List.append_assoc] at third
    exact ⟨left, right ++ rest, List.append_assoc .., first,
      opens_next.mpr ⟨right, rest, rfl, second, third⟩⟩
  · rintro ⟨left, _, rfl, first, others⟩
    obtain ⟨right, rest, rfl, second, third⟩ := opens_next.mp others
    rw [List.append_assoc] at third
    exact ⟨left ++ right, rest, (List.append_assoc ..).symm, ⟨left, right, rfl, first, second⟩, third⟩

theorem opens_last : (inOrder [p]).Opens before s ↔ p.Opens before s := by
  rw [inOrder, opens_next]
  simp [inOrder, Opens, Describes]

theorem opens_mark_next {spelling : String} : (next (mark spelling) q).Opens before s ↔
    ∃ rest, s = spelling.toList ++ rest ∧ q.Opens (before ++ spelling.toList) rest := by
  rw [opens_next]
  constructor
  · rintro ⟨_, rest, split, rfl, second⟩
    exact ⟨rest, split, second⟩
  · rintro ⟨rest, split, second⟩
    exact ⟨_, rest, split, rfl, second⟩

theorem opens_one_next : (next (one fits) q).Opens before s ↔
    ∃ c rest, s = c :: rest ∧ fits c = true ∧ q.Opens (before ++ [c]) rest := by
  rw [opens_next]
  constructor
  · rintro ⟨_, rest, split, ⟨c, fit, rfl⟩, second⟩
    exact ⟨c, rest, split, fit, second⟩
  · rintro ⟨c, rest, split, fit, second⟩
    exact ⟨[c], rest, split, ⟨c, fit, rfl⟩, second⟩

theorem opens_many_next : (next (many fits) q).Opens before s ↔
    ∃ run rest, s = run ++ rest ∧ (∀ c ∈ run, fits c = true) ∧ q.Opens (before ++ run) rest :=
  opens_next

theorem opens_edge_next : (next edge q).Opens before s ↔
    wordBefore before ≠ wordAfter s ∧ q.Opens before s := by
  rw [opens_next]
  constructor
  · rintro ⟨_, rest, rfl, ⟨rfl, ends⟩, second⟩
    exact ⟨ends, by simpa using second⟩
  · rintro ⟨ends, second⟩
    exact ⟨[], s, rfl, ⟨rfl, ends⟩, by simpa using second⟩

/-! ## Context -/

theorem wordBefore_append (before found : List Char) :
    wordBefore (before ++ found) = if found = [] then wordBefore before else wordBefore found := by
  cases found using List.reverseRecOn with
  | nil => simp
  | append_singleton front c => simp [wordBefore, ← List.append_assoc]

theorem wordAfter_append (found after : List Char) :
    wordAfter (found ++ after) = if found = [] then wordAfter after else wordAfter found := by
  cases found <;> simp [wordAfter]

/-- What a pattern describes depends on the text around only through the word characters next to it. -/
theorem Describes.congr {front back : List Char} (first : wordBefore front = wordBefore before)
    (last : wordAfter back = wordAfter after) (described : p.Describes before found after) :
    p.Describes front found back := by
  induction p generalizing before found after front back with
  | mark spelling => exact described
  | one fits => exact described
  | many fits => exact described
  | edge => exact ⟨described.1, by rw [first, last]; exact described.2⟩
  | next p q ihp ihq =>
    obtain ⟨left, right, rfl, leading, following⟩ := described
    refine ⟨left, right, rfl, ihp first ?_ leading, ihq ?_ last following⟩
    · rw [wordAfter_append, wordAfter_append, last]
    · rw [wordBefore_append, wordBefore_append, first]
  | either p q ihp ihq => exact described.imp (ihp first last) (ihq first last)

/-- A part of a text that a pattern describes is described too where words neither run into the text
nor out of it. -/
theorem Occurs.within {above below : List Char} (front : wordBefore above = false)
    (back : wordAfter below = false) (occurs : p.Occurs s) : p.Occurs (above ++ s ++ below) := by
  obtain ⟨before, found, after, rfl, described⟩ := occurs
  refine ⟨above ++ before, found, after ++ below, by simp, described.congr ?_ ?_⟩
  · rw [wordBefore_append]
    split
    next none => rw [none, front]; rfl
    next => rfl
  · rw [wordAfter_append]
    split
    next none => rw [none, back]; rfl
    next => rfl

/-! ## Looking for a pattern -/

/-- The ways to cut characters of a class off the front of a text, the longest one first. -/
def cuts (fits : Char → Bool) : List Char → List (List Char × List Char)
  | [] => [([], [])]
  | c :: rest =>
    (if fits c then (cuts fits rest).map fun cut => (c :: cut.1, cut.2) else []) ++ [([], c :: rest)]

/-- The ways in which a pattern describes the front of a text, in the order in which they are tried,
each with what it leaves of the text. More characters of a class are tried before fewer, and the first
alternative before the second. The character before the text is given. -/
def tries : Pattern → Option Char → List Char → List (List Char × List Char)
  | mark spelling, _, s => (spelling.toList.isPrefixOf? s).toList.map (spelling.toList, ·)
  | one _, _, [] => []
  | one fits, _, c :: rest => if fits c then [([c], rest)] else []
  | many fits, _, s => cuts fits s
  | edge, before, s => if before.any Text.isWordChar != wordAfter s then [([], s)] else []
  | next p q, before, s => (p.tries before s).flatMap fun cut =>
      (q.tries (cut.1.getLast?.or before) cut.2).map fun later => (cut.1 ++ later.1, later.2)
  | either p q, before, s => p.tries before s ++ q.tries before s

/-- The parts of a text that are found one after the other, each of them in the way tried first. What
was found is skipped before the search goes on; `skipped` characters of it are left. -/
def finds (p : Pattern) : Nat → Option Char → List Char → List (List Char)
  | _, _, [] => []
  | skipped + 1, _, c :: rest => p.finds skipped (some c) rest
  | 0, before, c :: rest =>
    match p.tries before (c :: rest) with
    | (found, _) :: _ => found :: p.finds (found.length - 1) (some c) rest
    | [] => p.finds 0 (some c) rest

variable {rest : List Char}

theorem mem_cuts : (found, rest) ∈ cuts fits s ↔ s = found ++ rest ∧ ∀ c ∈ found, fits c = true := by
  induction s generalizing found with
  | nil => simp +contextual [cuts]
  | cons c s ih =>
    rw [cuts, List.mem_append, List.mem_singleton]
    cases found with
    | nil =>
      have more : ([], rest) ∉
          if fits c then (cuts fits s).map fun cut => (c :: cut.1, cut.2) else [] := by
        split <;> simp
      rw [or_iff_right more, Prod.mk.injEq]
      exact ⟨fun whole => ⟨whole.2.symm, List.forall_mem_nil _⟩, fun whole => ⟨rfl, whole.1.symm⟩⟩
    | cons d found =>
      have last : (d :: found, rest) ≠ ([], c :: s) := by simp
      rw [or_iff_left last, List.cons_append, List.cons.injEq, List.forall_mem_cons]
      constructor
      · intro member
        split at member
        next fit =>
          obtain ⟨cut, shorter, same⟩ := List.mem_map.mp member
          cases same
          obtain ⟨rfl, fitting⟩ := ih.mp shorter
          exact ⟨⟨rfl, rfl⟩, fit, fitting⟩
        next => cases member
      · rintro ⟨⟨rfl, rfl⟩, fit, fitting⟩
        rw [if_pos fit]
        exact List.mem_map.mpr ⟨(found, rest), ih.mpr ⟨rfl, fitting⟩, rfl⟩

/-- All that a pattern describes at the front of a text is tried, and nothing else. -/
theorem mem_tries :
    (found, rest) ∈ p.tries before.getLast? s ↔ s = found ++ rest ∧ p.Describes before found rest := by
  induction p generalizing before found rest s with
  | mark spelling =>
    simp only [tries, List.mem_map, Option.mem_toList,
      List.isPrefixOf?_eq_some_iff_append_eq, Prod.mk.injEq, Describes]
    constructor
    · rintro ⟨_, rfl, rfl, rfl⟩
      exact ⟨rfl, rfl⟩
    · rintro ⟨rfl, rfl⟩
      exact ⟨rest, rfl, rfl, rfl⟩
  | one fits =>
    cases s with
    | nil => simp +contextual [tries, Describes]
    | cons c s =>
      rw [tries, Describes, List.mem_ite_nil_right, List.mem_singleton, Prod.mk.injEq]
      constructor
      · rintro ⟨fit, rfl, rfl⟩
        exact ⟨rfl, c, fit, rfl⟩
      · rintro ⟨split, d, fit, rfl⟩
        cases split
        exact ⟨fit, rfl, rfl⟩
  | many fits => exact mem_cuts
  | edge =>
    rw [tries, Describes, ← wordBefore, List.mem_ite_nil_right, List.mem_singleton, Prod.mk.injEq,
      bne_iff_ne]
    constructor
    · rintro ⟨ends, rfl, rfl⟩
      exact ⟨rfl, rfl, ends⟩
    · rintro ⟨rfl, rfl, ends⟩
      exact ⟨ends, rfl, rfl⟩
  | next p q ihp ihq =>
    have last (cut : List Char) : cut.getLast?.or before.getLast? = (before ++ cut).getLast? := by
      rw [List.getLast?_append]
    simp only [tries, List.mem_flatMap, List.mem_map, Prod.exists, Prod.mk.injEq, Describes, last]
    constructor
    · rintro ⟨front, middle, first, back, _, second, rfl, rfl⟩
      obtain ⟨rfl, leading⟩ := ihp.mp first
      obtain ⟨rfl, following⟩ := ihq.mp second
      exact ⟨(List.append_assoc ..).symm, front, back, rfl, leading, following⟩
    · rintro ⟨rfl, front, back, rfl, leading, following⟩
      exact ⟨front, back ++ rest, ihp.mpr ⟨List.append_assoc .., leading⟩, back, rest,
        ihq.mpr ⟨rfl, following⟩, rfl, rfl⟩
  | either p q ihp ihq => rw [tries, List.mem_append, ihp, ihq, Describes, and_or_left]

end Pattern

end CloneScan
