import CloneScan.Proofs.Buckets
import CloneScan.Proofs.WordRuns
import Mathlib.Data.List.Nodup

/-! The parameters guessed from source text. They are the first distinct variables among its whole
words, in the order of first appearance, and this says all about them (`FirstNames.unique`). Going from
name to name as a pattern finds them, with a stop at the limit, gives the same list. -/
namespace CloneScan.Utility

open Text Pattern

/-! ## The first distinct names -/

/-- Distinct names in the order of the places where they first stand, up to a limit. Every other name
stands behind all of them, and there is such a name only if the limit is reached. -/
structure FirstNames (stands : Nat → String → Prop) (limit : Nat) (names : List String) : Prop where
  distinct : names.Nodup
  length_le : names.length ≤ limit
  found : ∀ name ∈ names, ∃ place, stands place name
  ordered : names.Pairwise fun a b => ∀ place, stands place b → ∃ earlier < place, stands earlier a
  others : ∀ name ∉ names, ∀ place, stands place name →
    names.length = limit ∧ ∀ a ∈ names, ∃ earlier < place, stands earlier a

variable {stands : Nat → String → Prop} {limit : Nat} {xs ys : List String}

/-- Of two names that stand somewhere, not each can be earlier than the other. -/
theorem not_both_earlier {a b : String}
    (front : ∀ place, stands place b → ∃ earlier < place, stands earlier a)
    (back : ∀ place, stands place a → ∃ earlier < place, stands earlier b) (place : Nat) :
    ¬ stands place b := by
  induction place using Nat.strong_induction_on with
  | h place ih =>
    intro stand
    obtain ⟨middle, before, there⟩ := front place stand
    obtain ⟨first, further, again⟩ := back middle there
    exact ih first (by omega) again

namespace FirstNames

theorem subset (first : FirstNames stands limit xs) (other : FirstNames stands limit ys) : xs ⊆ ys := by
  intro name member
  by_contra missing
  obtain ⟨place, stand⟩ := first.found name member
  obtain ⟨full, _⟩ := other.others name missing place stand
  -- the other list is full, so it holds a name that is missing here; each of the two is then the earlier
  obtain ⟨swap, held, absent⟩ : ∃ swap ∈ ys, swap ∉ xs := by
    by_contra all
    push Not at all
    have more := (List.nodup_cons.mpr ⟨missing, other.distinct⟩).length_le_of_subset
      (List.cons_subset.mpr ⟨member, all⟩)
    have bound := first.length_le
    rw [List.length_cons] at more
    omega
  have front (spot : Nat) (there : stands spot name) := (other.others name missing spot there).2 swap held
  have back (spot : Nat) (there : stands spot swap) := (first.others swap absent spot there).2 name member
  exact not_both_earlier front back place stand

/-- There is one list of first distinct names. -/
theorem unique (first : FirstNames stands limit xs) (other : FirstNames stands limit ys) : xs = ys := by
  have same : xs.Perm ys := (List.perm_ext_iff_of_nodup first.distinct other.distinct).mpr fun name =>
    ⟨fun member => first.subset other member, fun member => other.subset first member⟩
  refine same.eq_of_pairwise (fun a b _ held front back => ?_) first.ordered other.ordered
  obtain ⟨place, stand⟩ := other.found b held
  exact absurd stand (not_both_earlier front back place)

end FirstNames

/-! ## Variables of a text -/

/-- Letters without accents and digits, a small letter first, and no word of the language. -/
structure NamesVariable (name : List Char) : Prop where
  lower : ∃ c rest, name = c :: rest ∧ isLowerLetter c = true
  plain : ∀ c ∈ name, isPlain c = true
  free : String.ofList name ∉ reserved

theorem looksLikeVariable_iff {name : List Char} :
    looksLikeVariable name = true ↔ NamesVariable name := by
  cases name with
  | nil =>
    constructor
    · intro named
      cases named
    · rintro ⟨⟨_, _, split, _⟩, _, _⟩
      cases split
  | cons c rest =>
    simp only [looksLikeVariable, Bool.and_eq_true, List.all_eq_true, Bool.not_eq_true',
      List.contains_eq_mem, decide_eq_false_iff_not]
    constructor
    · rintro ⟨⟨lower, plain⟩, free⟩
      exact ⟨⟨c, rest, rfl, lower⟩,
        List.forall_mem_cons.mpr ⟨isPlain_of_isLowerLetter lower, plain⟩, free⟩
    · rintro ⟨⟨_, _, split, lower⟩, plain, free⟩
      cases split
      exact ⟨⟨lower, (List.forall_mem_cons.mp plain).2⟩, free⟩

/-- The variables of a text, as often as they stand in it. -/
def variablesIn (s : List Char) : List String :=
  ((wordRuns s).filter looksLikeVariable).map String.ofList

/-- A variable stands behind so many characters of a text, as a whole word. -/
def StandsAt (code : String) (place : Nat) (name : String) : Prop :=
  ∃ before after, code.toList = before ++ name.toList ++ after ∧ before.length = place ∧
    Stands before name.toList after ∧ NamesVariable name.toList

variable {code name : String} {before after s : List Char}

theorem variablesIn_eq (stands : Stands before name.toList after)
    (named : NamesVariable name.toList) :
    variablesIn (before ++ name.toList ++ after) = variablesIn before ++ name :: variablesIn after := by
  rw [variablesIn, stands.wordRuns_eq, List.filter_append,
    List.filter_cons_of_pos (looksLikeVariable_iff.mpr named), List.map_append, List.map_cons,
    String.ofList_toList]
  rfl

theorem mem_variablesIn : name ∈ variablesIn s ↔ ∃ before after,
    s = before ++ name.toList ++ after ∧ Stands before name.toList after ∧
      NamesVariable name.toList := by
  constructor
  · intro member
    obtain ⟨run, listed, rfl⟩ := List.mem_map.mp member
    obtain ⟨among, named⟩ := List.mem_filter.mp listed
    obtain ⟨front, back, split⟩ := List.mem_iff_append.mp among
    obtain ⟨before, after, rfl, stands, _⟩ := exists_stands split
    rw [String.toList_ofList]
    exact ⟨before, after, rfl, stands, looksLikeVariable_iff.mp named⟩
  · rintro ⟨before, after, rfl, stands, named⟩
    rw [variablesIn_eq stands named]
    exact List.mem_append_right _ List.mem_cons_self

/-- What is met first among the variables of a text stands first in it. -/
theorem earlier_of_idxOf_lt {a b : String}
    (first : (variablesIn code.toList).idxOf a < (variablesIn code.toList).idxOf b) (place : Nat)
    (stand : StandsAt code place b) : ∃ earlier < place, StandsAt code earlier a := by
  obtain ⟨before, after, split, rfl, stands, named⟩ := stand
  rw [split, variablesIn_eq stands named] at first
  have last : (variablesIn before ++ b :: variablesIn after).idxOf b ≤ (variablesIn before).length := by
    by_cases again : b ∈ variablesIn before
    · rw [List.idxOf_append_of_mem again]
      exact List.idxOf_le_length
    · simp [List.idxOf_append_of_notMem again]
  have among : a ∈ variablesIn before := by
    by_contra missing
    rw [List.idxOf_append_of_notMem missing] at first
    omega
  obtain ⟨front, middle, rfl, there, fits⟩ := mem_variablesIn.mp among
  have starts := stands.starts
  refine ⟨front.length, ?_, front, middle ++ (b.toList ++ after), by simp [split], rfl,
    there.append starts _, fits⟩
  have filled := List.length_pos_iff.mpr there.filled
  simp only [List.length_append]
  omega

theorem standsAt_iff_mem : (∃ place, StandsAt code place name) ↔ name ∈ variablesIn code.toList := by
  rw [mem_variablesIn]
  constructor
  · rintro ⟨_, before, after, split, _, stands, named⟩
    exact ⟨before, after, split, stands, named⟩
  · rintro ⟨before, after, split, stands, named⟩
    exact ⟨before.length, before, after, split, rfl, stands, named⟩

theorem firstNames_parameters {limit : Int} (positive : 1 ≤ limit) :
    FirstNames (StandsAt code) limit.toNat (parameters code limit) := by
  have most : max limit.toNat 1 = limit.toNat := by omega
  have cut : parameters code limit = (variablesIn code.toList).eraseDups.take limit.toNat := by
    rw [← most]
    rfl
  have order := Buckets.eraseDups_ordered (variablesIn code.toList)
  rw [cut]
  refine ⟨(Buckets.nodup_eraseDups _).sublist (List.take_sublist _ _), List.length_take_le _ _,
    fun name member => ?_, ?_, fun name new place stand => ?_⟩
  · exact standsAt_iff_mem.mpr (List.mem_eraseDups.mp (List.mem_of_mem_take member))
  · exact (order.sublist (List.take_sublist _ _)).imp earlier_of_idxOf_lt
  · have listed := List.mem_eraseDups.mpr (standsAt_iff_mem.mp ⟨place, stand⟩)
    rw [← List.take_append_drop limit.toNat (variablesIn code.toList).eraseDups] at listed order
    have left := (List.mem_append.mp listed).resolve_left new
    obtain ⟨_, _, apart⟩ := List.pairwise_append.mp order
    refine ⟨?_, fun a member => earlier_of_idxOf_lt (apart a member name left) place stand⟩
    have longer := List.length_pos_of_mem left
    rw [List.length_drop] at longer
    rw [List.length_take]
    omega

/-! ## From name to name -/

/-- Goes through names from left to right and keeps the new ones that are free, until there are as many
as the limit says. -/
def gathered (limit : Int) : List String → List String → List String
  | kept, [] => kept
  | kept, name :: rest =>
    if reserved.contains name || kept.contains name then gathered limit kept rest
    else if limit ≤ (kept ++ [name]).length then kept ++ [name]
    else gathered limit (kept ++ [name]) rest

theorem gathered_eq {limit : Int} {kept names : List String} (distinct : kept.Nodup)
    (room : kept.length < max limit.toNat 1) : gathered limit kept names =
      (kept ++ names.filter fun name => !reserved.contains name).eraseDups.take (max limit.toNat 1) := by
  induction names generalizing kept with
  | nil =>
    rw [gathered, List.filter_nil, List.append_nil, Buckets.eraseDups_of_nodup distinct,
      List.take_of_length_le (by omega)]
  | cons name rest ih =>
    rw [gathered]
    split
    next known =>
      rw [ih distinct room]
      cases free : reserved.contains name with
      | true => rw [List.filter_cons_of_neg (by simpa using free)]
      | false =>
        rw [free, Bool.false_or, List.contains_iff_mem] at known
        rw [List.filter_cons_of_pos (by simpa using free), Buckets.eraseDups_append_cons known]
    next new =>
      rw [Bool.or_eq_true, not_or, List.contains_iff_mem, List.contains_iff_mem] at new
      have longer : (kept ++ [name]).Nodup := by
        refine List.nodup_append.mpr ⟨distinct, List.nodup_singleton name, ?_⟩
        rintro held member last single rfl
        exact new.2 (List.mem_singleton.mp single ▸ member)
      have length : (kept ++ [name]).length = kept.length + 1 := by simp
      have front : kept ++ name :: rest.filter (fun name => !reserved.contains name) =
          kept ++ [name] ++ rest.filter fun name => !reserved.contains name := by simp
      rw [List.filter_cons_of_pos (by simpa using new.1), front]
      split
      next full =>
        have most : max limit.toNat 1 = (kept ++ [name]).length := by omega
        rw [most, List.eraseDups_append, Buckets.eraseDups_of_nodup longer, List.take_left]
      next more => rw [ih longer (by omega)]

theorem variablesIn_eq_filter (s : List Char) : variablesIn s =
    (((wordRuns s).filter isIdentifier).map String.ofList).filter fun name => !reserved.contains name := by
  have parts (run : List Char) : looksLikeVariable run =
      (!reserved.contains (String.ofList run) && isIdentifier run) := by
    cases run with
    | nil => simp [looksLikeVariable, isIdentifier]
    | cons c rest => rw [looksLikeVariable, isIdentifier, Bool.and_comm]
  rw [variablesIn, List.filter_map, List.filter_filter, funext parts]
  rfl

/-- The parameters of a text are the first distinct variables in it, as many as the limit says or all of
them. They come out of going through the names that the pattern finds. -/
theorem parameters_eq_iff (code : String) {limit : Int} (positive : 1 ≤ limit) :
    (∀ names, parameters code limit = names ↔ FirstNames (StandsAt code) limit.toNat names) ∧
    parameters code limit =
      gathered limit [] ((identifier.finds 0 none code.toList).map String.ofList) := by
  refine ⟨fun names => ⟨?_, fun first => (firstNames_parameters positive).unique first⟩, ?_⟩
  · rintro rfl
    exact firstNames_parameters positive
  · have room : ([] : List String).length < max limit.toNat 1 := by
      rw [List.length_nil]
      omega
    rw [gathered_eq List.nodup_nil room, finds_identifier fun _ => rfl, List.nil_append,
      ← variablesIn_eq_filter]
    rfl

def call : String := "const naïve = fetch(url_2, getUrl, getUrl, x9)"

theorem fetch_and_getUrl_first : (1 : Int) ≤ 2 ∧ parameters call 2 = ["fetch", "getUrl"] ∧
    FirstNames (StandsAt call) 2 ["fetch", "getUrl"] := by
  have positive : (1 : Int) ≤ 2 := by decide
  have given : parameters call 2 = ["fetch", "getUrl"] := by decide +kernel
  exact ⟨positive, given, ((parameters_eq_iff call positive).1 _).mp given⟩

end CloneScan.Utility
