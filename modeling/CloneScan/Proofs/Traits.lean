import CloneScan.Category.Rule
import CloneScan.Proofs.Findings
import CloneScan.Proofs.Patterns
import CloneScan.Proofs.Words

/-! The traits of source text as patterns. A trait is looked for place by place, each blank being passed
over at once; a pattern says what stands there, with blanks in any number and any text in the arms of a
branch. Both come to the same for each of the seven rules (`standard_reads`). -/
namespace CloneScan

open Text

namespace Pattern

/-! ## The patterns of the rules -/

def gap : Pattern := many isBlank

def blanks : Pattern := next (one isBlank) gap

def asyncDeclaration : Pattern := anyOf [
  inOrder [mark "async", blanks, mark "function"],
  inOrder [mark "async", blanks, mark "("],
  inOrder [mark "async", blanks, mark "def", edge]]

def serviceCall : Pattern := anyOf [
  inOrder [edge, mark "fetch("], mark "http_api_get", mark "http_api_post"]

def reactiveState : Pattern := anyOf [mark "$effect(", mark "$derived"]

def consoleCall : Pattern :=
  inOrder [mark "console.", anyOf [mark "log", mark "error", mark "warn"]]

def dateUse : Pattern := anyOf [mark "new Date(", mark ".toISOString", mark ".toLocaleDateString"]

def arrayStep : Pattern := anyOf [mark ".map(", mark ".filter(", mark ".reduce("]

/-- A condition on one line, an arm of any text, and another arm. -/
def twoArms : Pattern := inOrder [
  mark "if", gap, mark "(", many (· != '\n'), mark ")", gap,
  mark "\x7b", many fun _ => true, mark "\x7d", gap, mark "else"]

/-- The patterns in the order of their rules, with what is said of a text that one of them is the
first to describe. -/
def standard : List (Pattern × Label) := [
  (asyncDeclaration, ⟨"async-function", "Extract to async utility function"⟩),
  (serviceCall, ⟨"api-call", "Extract to API service method"⟩),
  (reactiveState, ⟨"reactive-state", "Extract to reusable reactive store/composition"⟩),
  (consoleCall, ⟨"logging", "Use centralized logger utility"⟩),
  (dateUse, ⟨"date-manipulation", "Extract to date utility function"⟩),
  (arrayStep, ⟨"array-processing", "Extract to data processing utility"⟩),
  (twoArms, ⟨"conditional-logic", "Extract to named function for clarity"⟩)]

end Pattern

/-! ## Looking place by place -/

namespace Trait

variable {test : Option Char → List Char → Bool} {arm : List Char → Bool} {before s : List Char}

theorem somewhereAfter_iff : somewhereAfter test before.getLast? s = true ↔
    ∃ front rest, s = front ++ rest ∧ test (before ++ front).getLast? rest = true := by
  induction s generalizing before with
  | nil => simp [somewhereAfter]
  | cons c s ih =>
    have moved : some c = (before ++ [c]).getLast? := by simp
    rw [somewhereAfter, Bool.or_eq_true, moved, ih]
    constructor
    · rintro (here | ⟨front, rest, rfl, there⟩)
      · exact ⟨[], c :: s, rfl, by simpa using here⟩
      · exact ⟨c :: front, rest, rfl, by simpa using there⟩
    · rintro ⟨front, rest, split, found⟩
      cases front with
      | nil =>
        subst split
        exact .inl (by simpa using found)
      | cons d front =>
        cases split
        exact .inr ⟨front, rest, rfl, by simpa using found⟩

theorem somewhere_iff :
    somewhere arm s = true ↔ ∃ front rest, s = front ++ rest ∧ arm rest = true := by
  have start : none = ([] : List Char).getLast? := rfl
  rw [somewhere, start, somewhereAfter_iff]

theorem opensWith_iff {mark : String} : opensWith mark s = true ↔ ∃ rest, s = mark.toList ++ rest := by
  rw [opensWith, List.isPrefixOf_iff_prefix]
  exact exists_congr fun _ => eq_comm

/-- A test that is passed only by texts whose first character is visible. -/
def AsksVisible (test : List Char → Bool) : Prop :=
  ∀ s, test s = true → ∃ c rest, s = c :: rest ∧ isBlank c = false

theorem asksVisible_of_opens {mark : String}
    (visible : mark.toList.head?.any (fun c => !isBlank c) = true)
    (opens : ∀ s, arm s = true → ∃ rest, s = mark.toList ++ rest) : AsksVisible arm := by
  obtain ⟨c, first, shown⟩ := (Option.any_eq_true ..).mp visible
  obtain ⟨more, spelled⟩ := List.head?_eq_some_iff.mp first
  intro s passed
  obtain ⟨rest, rfl⟩ := opens s passed
  exact ⟨c, more ++ rest, by rw [spelled, List.cons_append], by simpa using shown⟩

/-- Blanks that are followed by something visible are passed over as a whole. -/
theorem exists_blanks_iff (visible : AsksVisible arm) :
    (∃ run rest, s = run ++ rest ∧ Blanks run ∧ arm rest = true) ↔ arm (pastBlanks s) = true := by
  constructor
  · rintro ⟨run, rest, rfl, blanks, follows⟩
    obtain ⟨c, more, rfl, shown⟩ := visible rest follows
    rw [pastBlanks, List.dropWhile_append_of_pos blanks, List.dropWhile_cons_of_neg (by simp [shown])]
    exact follows
  · intro follows
    exact ⟨s.takeWhile isBlank, pastBlanks s, List.takeWhile_append_dropWhile.symm,
      fun c member => List.all_eq_true.mp List.all_takeWhile c member, follows⟩

end Trait

/-! ## Tests that read patterns -/

namespace Pattern

variable {p q : Pattern} {test later : List Char → Bool} {before s : List Char}

/-- The test tells whether a pattern opens the rest of a text, whatever is before. -/
def ReadBy (p : Pattern) (test : List Char → Bool) : Prop :=
  ∀ before rest, p.Opens before rest ↔ test rest = true

theorem readBy_mark (spelling : String) : (inOrder [mark spelling]).ReadBy (Trait.opensWith spelling) :=
  fun before rest => by
    rw [inOrder, opens_mark_next, Trait.opensWith_iff]
    simp [inOrder, opens_mark]

theorem readBy_never : (anyOf []).ReadBy fun _ => false := fun before rest => by
  simp [anyOf, Opens, Describes]

theorem ReadBy.either (first : p.ReadBy test) (second : q.ReadBy later) :
    (Pattern.either p q).ReadBy fun s => test s || later s := fun before rest => by
  rw [opens_either, first, second, Bool.or_eq_true]

theorem ReadBy.mark_next (reads : q.ReadBy test) (spelling : String) :
    (next (mark spelling) q).ReadBy fun s => (spelling.toList.isPrefixOf? s).any test :=
  fun before rest => by
    simp only [opens_mark_next, Option.any_eq_true, List.isPrefixOf?_eq_some_iff_append_eq,
      reads _ _, eq_comm (b := rest)]

theorem ReadBy.gap_next (reads : q.ReadBy test) (visible : Trait.AsksVisible test) :
    (next gap q).ReadBy fun s => test (Trait.pastBlanks s) := fun before rest => by
  simp only [gap, opens_many_next, reads _ _, ← Trait.exists_blanks_iff visible, Blanks]

theorem ReadBy.blanks_next (reads : q.ReadBy test) (visible : Trait.AsksVisible test) :
    (next blanks q).ReadBy fun s => s.head?.any isBlank && test (Trait.pastBlanks s) :=
  fun before rest => by
    rw [blanks, opens_assoc, opens_one_next]
    simp only [reads.gap_next visible _ _]
    cases rest with
    | nil => simp
    | cons c rest =>
      rw [List.head?_cons, Option.any_some, Bool.and_eq_true]
      constructor
      · rintro ⟨_, _, split, blank, follows⟩
        cases split
        rw [Trait.pastBlanks, List.dropWhile_cons_of_pos blank]
        exact ⟨blank, follows⟩
      · rintro ⟨blank, follows⟩
        rw [Trait.pastBlanks, List.dropWhile_cons_of_pos blank] at follows
        exact ⟨c, rest, rfl, blank, follows⟩

theorem ReadBy.anything_next (reads : q.ReadBy test) :
    (next (many fun _ => true) q).ReadBy (Trait.somewhere test) := fun before rest => by
  simp [opens_many_next, reads _ _, Trait.somewhere_iff]

/-- A spelling that ends in a word character, and nothing of a word behind it. -/
theorem readBy_wordEnd {spelling : String} (word : wordBefore spelling.toList = true)
    (filled : spelling.toList ≠ []) :
    (inOrder [mark spelling, edge]).ReadBy fun s =>
      (spelling.toList.isPrefixOf? s).any Trait.endsWord := fun before rest => by
  have ends (after : List Char) : true ≠ wordAfter after ↔ Trait.endsWord after = true := by
    cases after <;> simp [wordAfter, Trait.endsWord]
  rw [inOrder, opens_mark_next, Option.any_eq_true]
  simp [inOrder, opens_edge_next, wordBefore_append, filled, word, ends, opens_mark,
    List.isPrefixOf?_eq_some_iff_append_eq, eq_comm (b := rest)]

theorem somewhereAfter_iff_occurs {test : Option Char → List Char → Bool}
    (reads : ∀ before rest, p.Opens before rest ↔ test before.getLast? rest = true) :
    Trait.somewhereAfter test none s = true ↔ p.Occurs s := by
  have start : none = ([] : List Char).getLast? := rfl
  rw [start, Trait.somewhereAfter_iff, occurs_iff_opens]
  simp only [reads, List.nil_append]

theorem ReadBy.somewhere_iff (reads : p.ReadBy test) :
    Trait.somewhere test s = true ↔ p.Occurs s := by
  rw [Trait.somewhere, somewhereAfter_iff_occurs]
  exact reads

end Pattern

/-! ## The seven rules -/

namespace Trait

open Pattern

variable {s : List Char}

theorem asksVisible_opensWith {mark : String}
    (visible : mark.toList.head?.any (fun c => !isBlank c) = true) : AsksVisible (opensWith mark) :=
  asksVisible_of_opens visible fun _ => opensWith_iff.mp

theorem asksVisible_behind {mark : String} {test : List Char → Bool}
    (visible : mark.toList.head?.any (fun c => !isBlank c) = true) :
    AsksVisible fun s => (mark.toList.isPrefixOf? s).any test := by
  refine asksVisible_of_opens visible fun s passed => ?_
  obtain ⟨rest, found, _⟩ := (Option.any_eq_true ..).mp passed
  exact ⟨rest, (List.isPrefixOf?_eq_some_iff_append_eq.mp found).symm⟩

theorem declaresAsync_iff : declaresAsync s = true ↔ asyncDeclaration.Occurs s := by
  have function := (readBy_mark "function").blanks_next (asksVisible_opensWith (by decide))
  have bracket := (readBy_mark "(").blanks_next (asksVisible_opensWith (by decide))
  have word : wordBefore "def".toList = true := by decide
  have definition := (readBy_wordEnd word (by decide)).blanks_next (asksVisible_behind (by decide))
  have reads : asyncDeclaration.ReadBy _ := (function.mark_next "async").either
    ((bracket.mark_next "async").either ((definition.mark_next "async").either readBy_never))
  rw [← reads.somewhere_iff, declaresAsync]
  congr! 2
  funext s
  cases "async".toList.isPrefixOf? s with
  | none => rfl
  | some rest =>
    simp only [Option.any_some, Bool.or_false, ← Bool.and_or_distrib_left, Bool.or_assoc]
    cases "def".toList.isPrefixOf? (pastBlanks rest) <;> rfl

theorem callsFetch_iff : callsFetch s = true ↔ (inOrder [edge, mark "fetch("]).Occurs s := by
  rw [callsFetch, somewhereAfter_iff_occurs]
  intro before rest
  have inside : opensWith "fetch(" rest = true → wordAfter rest = true := by
    intro opens
    obtain ⟨more, rfl⟩ := opensWith_iff.mp opens
    rw [wordAfter_append, if_neg (by decide)]
    decide
  rw [inOrder, opens_edge_next, readBy_mark "fetch(" before rest, Bool.and_eq_true, ← wordBefore]
  constructor
  · rintro ⟨ends, opens⟩
    rw [inside opens] at ends
    exact ⟨by simpa using ends, opens⟩
  · rintro ⟨outside, opens⟩
    rw [inside opens]
    exact ⟨by simpa using outside, opens⟩

theorem behind_sign (c : Char) (test : List Char → Bool) (rest : List Char) :
    ([c].isPrefixOf? (c :: rest)).any test = test rest := by
  simp [List.isPrefixOf?]

theorem behind_other {c : Char} (other : ∀ rest, s = c :: rest → False) (test : List Char → Bool) :
    ([c].isPrefixOf? s).any test = false := by
  rw [Option.any_eq_false]
  intro rest found
  exact (other rest (List.isPrefixOf?_eq_some_iff_append_eq.mp found).symm).elim

def armsBehind (s : List Char) : Bool :=
  (")".toList.isPrefixOf? s).any fun rest => ("\x7b".toList.isPrefixOf? (pastBlanks rest)).any hasElse

theorem hasElse_eq : hasElse = somewhere fun s =>
    ("\x7d".toList.isPrefixOf? s).any fun rest => opensWith "else" (pastBlanks rest) := by
  funext s
  rw [hasElse]
  congr 1
  funext s
  change _ = (['\x7d'].isPrefixOf? s).any _
  split
  next => rw [behind_sign]
  next other => rw [behind_other other]

theorem closesWithArms_cons (c : Char) (rest : List Char) :
    closesWithArms (c :: rest) = (armsBehind (c :: rest) || (c != '\n' && closesWithArms rest)) := by
  rw [closesWithArms]
  congr 1
  change _ = ([')'].isPrefixOf? (c :: rest)).any _
  by_cases close : c = ')'
  · rw [close, behind_sign, beq_self_eq_true, Bool.true_and]
    change _ = (['\x7b'].isPrefixOf? (pastBlanks rest)).any _
    split
    next shown => rw [shown, behind_sign]
    next other => rw [behind_other other]
  · rw [behind_other fun _ split => close (List.cons.inj split).1, beq_false_of_ne close,
      Bool.false_and]

/-- A condition ends at one of the closing brackets of its line. -/
theorem closesWithArms_iff : closesWithArms s = true ↔
    ∃ front rest, s = front ++ rest ∧ (∀ c ∈ front, (c != '\n') = true) ∧ armsBehind rest = true := by
  induction s with
  | nil =>
    have none : armsBehind [] = false := rfl
    simp [closesWithArms, none]
  | cons c s ih =>
    rw [closesWithArms_cons, Bool.or_eq_true, Bool.and_eq_true, ih]
    constructor
    · rintro (here | ⟨inLine, front, rest, rfl, line, there⟩)
      · exact ⟨[], c :: s, rfl, List.forall_mem_nil _, here⟩
      · exact ⟨c :: front, rest, rfl, List.forall_mem_cons.mpr ⟨inLine, line⟩, there⟩
    · rintro ⟨front, rest, split, line, closes⟩
      cases front with
      | nil =>
        subst split
        exact .inl closes
      | cons d front =>
        cases split
        obtain ⟨inLine, line⟩ := List.forall_mem_cons.mp line
        exact .inr ⟨inLine, front, rest, rfl, line, closes⟩

theorem readBy_closesWithArms {q : Pattern} (reads : q.ReadBy armsBehind) :
    (next (many (· != '\n')) q).ReadBy closesWithArms := fun before rest => by
  simp only [opens_many_next, reads _ _, closesWithArms_iff]

theorem branches_iff : branches s = true ↔ twoArms.Occurs s := by
  have otherArm := ((readBy_mark "else").gap_next (asksVisible_opensWith (by decide))).mark_next "\x7d"
  have arm := otherArm.anything_next.mark_next "\x7b"
  have closing := (arm.gap_next (asksVisible_behind (by decide))).mark_next ")"
  rw [← hasElse_eq] at closing
  have condition := (readBy_closesWithArms closing).mark_next "("
  have reads : twoArms.ReadBy _ := (condition.gap_next (asksVisible_behind (by decide))).mark_next "if"
  rw [← reads.somewhere_iff, branches]
  congr! 2
  funext s
  cases "if".toList.isPrefixOf? s with
  | none => rfl
  | some rest =>
    change _ = (['('].isPrefixOf? (pastBlanks rest)).any _
    dsimp only
    split
    next shown => rw [shown, behind_sign]
    next other => rw [behind_other other]

end Trait

/-! ## Rules and patterns -/

structure Rule.Reads (rule : Rule) (entry : Pattern × Label) : Prop where
  label : rule.label = entry.2
  applies : ∀ s, rule.applies s = true ↔ entry.1.Occurs s

namespace Trait

variable {s : List Char}

theorem mentionsAny_iff {marks : List String} :
    mentionsAny marks s = true ↔ (Pattern.anyOf (marks.map Pattern.mark)).Occurs s := by
  simp [mentionsAny, mentions_iff, Pattern.occurs_anyOf, Pattern.occurs_mark]

/-- Spellings that begin alike. -/
theorem mentionsAny_append_iff (front : String) (marks : List String) :
    mentionsAny (marks.map (front ++ ·)) s = true ↔
      (Pattern.inOrder [.mark front, Pattern.anyOf (marks.map Pattern.mark)]).Occurs s := by
  have opens (before rest : List Char) :
      (Pattern.inOrder [.mark front, Pattern.anyOf (marks.map Pattern.mark)]).Opens before rest ↔
        ∃ m ∈ marks, ∃ more, rest = front.toList ++ (m.toList ++ more) := by
    rw [Pattern.inOrder, Pattern.opens_mark_next]
    simp only [Pattern.opens_last, Pattern.opens_anyOf, List.mem_map, exists_exists_and_eq_and,
      Pattern.opens_mark]
    constructor
    · rintro ⟨_, rfl, m, member, more, rfl⟩
      exact ⟨m, member, more, rfl⟩
    · rintro ⟨m, member, more, rfl⟩
      exact ⟨_, rfl, m, member, more, rfl⟩
  simp only [mentionsAny, List.any_map, List.any_eq_true, Function.comp_apply, mentions_iff,
    Pattern.occurs_iff_opens, opens, String.toList_append]
  constructor
  · rintro ⟨m, member, before, more, split⟩
    exact ⟨before, _, by simp [← split], m, member, more, rfl⟩
  · rintro ⟨before, _, rfl, m, member, more, rfl⟩
    exact ⟨m, member, before, more, by simp⟩

end Trait

/-- Each of the rules reads its pattern. -/
theorem Rule.standard_reads : List.Forall₂ Reads standard Pattern.standard := by
  refine .cons ⟨rfl, fun s => Trait.declaresAsync_iff⟩ (.cons ⟨rfl, fun s => ?_⟩
    (.cons ⟨rfl, fun s => ?_⟩ (.cons ⟨rfl, fun s => ?_⟩ (.cons ⟨rfl, fun s => ?_⟩
      (.cons ⟨rfl, fun s => ?_⟩ (.cons ⟨rfl, fun s => Trait.branches_iff⟩ .nil))))))
  · rw [Bool.or_eq_true, Trait.callsFetch_iff, Trait.mentionsAny_iff]
    exact Pattern.occurs_either.symm
  · exact Trait.mentionsAny_iff
  · exact Trait.mentionsAny_append_iff "console." ["log", "error", "warn"]
  · exact Trait.mentionsAny_iff
  · exact Trait.mentionsAny_iff

end CloneScan
