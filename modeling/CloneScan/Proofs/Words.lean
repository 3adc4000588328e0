import CloneScan.Text.Blank
import CloneScan.Text.Lines
import Mathlib.Data.List.DropRight
import Mathlib.Data.List.TakeWhile

/-! Words under layout. Splitting a text at a blank splits its words there, and everything said
here about words follows from that one equation: blanks at either end, and so trimming, leave the
words of a text alone. -/
namespace CloneScan.Text

def Blanks (s : List Char) : Prop := ∀ c ∈ s, isBlank c = true

structure IsWord (w : List Char) : Prop where
  filled : w ≠ []
  solid : ∀ c ∈ w, isBlank c = false

def unwords (ws : List (List Char)) : List Char := [' '].intercalate ws

@[simp] theorem unwords_nil : unwords [] = [] := rfl

@[simp] theorem blanks_nil : Blanks [] := by simp [Blanks]

theorem blanks_cons : Blanks (c :: s) ↔ isBlank c = true ∧ Blanks s := by
  simp [Blanks]

/-- The maximal runs of characters at which nothing ends. -/
def runs (ends : Char → Bool) (s : List Char) : List (List Char) :=
  (s.splitOnP ends).filter fun run => !run.isEmpty

theorem runs_append_end (stop : ends c = true) (a b : List Char) :
    runs ends (a ++ c :: b) = runs ends a ++ runs ends b := by
  rw [runs, List.splitOnP_append_cons a b stop, List.filter_append]
  rfl

theorem runs_ends_append (stops : ∀ c ∈ a, ends c = true) (s : List Char) :
    runs ends (a ++ s) = runs ends s := by
  induction a with
  | nil => rfl
  | cons c a ih =>
    rw [List.forall_mem_cons] at stops
    have skip : runs ends (c :: (a ++ s)) = runs ends (a ++ s) := by
      simpa [runs] using runs_append_end stops.1 [] (a ++ s)
    rw [List.cons_append, skip, ih stops.2]

theorem runs_of_solid (filled : w ≠ []) (solid : ∀ c ∈ w, ends c = false) : runs ends w = [w] := by
  rw [runs, List.splitOnP_eq_singleton solid]
  simp [filled]

theorem words_append_blank (blank : isBlank c = true) (a b : List Char) :
    words (a ++ c :: b) = words a ++ words b :=
  runs_append_end blank a b

theorem words_cons_blank (blank : isBlank c = true) (s : List Char) : words (c :: s) = words s := by
  simpa using words_append_blank blank [] s

theorem words_blanks_append (blanks : Blanks a) (s : List Char) : words (a ++ s) = words s :=
  runs_ends_append blanks s

theorem words_append_blanks (blanks : Blanks b) (s : List Char) : words (s ++ b) = words s := by
  cases b with
  | nil => rw [List.append_nil]
  | cons c b =>
    have parts := blanks_cons.mp blanks
    have rest := words_blanks_append parts.2 []
    rw [List.append_nil, words_nil] at rest
    rw [words_append_blank parts.1, rest, List.append_nil]

/-- Blanks between two texts keep their words apart. -/
theorem words_append_gap (filled : gap ≠ []) (blanks : Blanks gap) (a b : List Char) :
    words (a ++ gap ++ b) = words a ++ words b := by
  obtain ⟨c, gap, rfl⟩ := List.exists_cons_of_ne_nil filled
  have parts := blanks_cons.mp blanks
  rw [List.append_assoc, List.cons_append, words_append_blank parts.1, words_blanks_append parts.2]

theorem words_of_blanks (blanks : Blanks s) : words s = [] := by
  simpa using words_blanks_append blanks []

theorem words_of_isWord (word : IsWord w) : words w = [w] := runs_of_solid word.filled word.solid

theorem words_cons_visible (visible : isBlank c = false) (s : List Char) : words (c :: s) ≠ [] := by
  obtain ⟨piece, pieces, split⟩ := List.exists_cons_of_ne_nil (List.splitOnP_ne_nil isBlank s)
  simp [words, List.splitOnP_cons_eq_if_modifyHead, visible, split]

theorem words_eq_nil_iff : words s = [] ↔ Blanks s := by
  refine ⟨fun none => ?_, words_of_blanks⟩
  induction s with
  | nil => exact blanks_nil
  | cons c s ih =>
    cases visible : isBlank c with
    | false => exact absurd none (words_cons_visible visible s)
    | true =>
      rw [words_cons_blank visible] at none
      exact blanks_cons.mpr ⟨visible, ih none⟩

/-- What trimming takes away are blanks at either end. -/
theorem trim_split (s : List Char) : ∃ a b, Blanks a ∧ Blanks b ∧ s = a ++ trim s ++ b := by
  refine ⟨s.takeWhile isBlank, ((trimStart s).reverse.takeWhile isBlank).reverse, ?_, ?_, ?_⟩
  · exact fun c member => List.all_eq_true.mp List.all_takeWhile c member
  · intro c member
    exact List.all_eq_true.mp List.all_takeWhile c (List.mem_reverse.mp member)
  · rw [List.append_assoc, trim, trimEnd, ← List.reverse_append, List.takeWhile_append_dropWhile,
      List.reverse_reverse, trimStart, List.takeWhile_append_dropWhile]

theorem words_trim (s : List Char) : words (trim s) = words s := by
  obtain ⟨a, b, before, after, split⟩ := trim_split s
  conv_rhs => rw [split]
  rw [words_append_blanks after, words_blanks_append before]

theorem trim_first_visible (split : trim s = c :: rest) : isBlank c = false := by
  have shorter : trim s <+: trimStart s := List.rdropWhile_prefix isBlank (trimStart s)
  rw [split] at shorter
  obtain ⟨more, start⟩ := shorter
  have first := List.head?_dropWhile_not isBlank s
  rw [← trimStart, ← start] at first
  simpa using first

theorem trim_last_visible (split : trim s = rest ++ [c]) : isBlank c = false := by
  have reversed := congrArg List.reverse split
  rw [trim, trimEnd, List.reverse_reverse, List.reverse_concat] at reversed
  have first := List.head?_dropWhile_not isBlank (trimStart s).reverse
  rw [reversed] at first
  simpa using first

theorem trim_blanks_append (blanks : Blanks a) (s : List Char) : trim (a ++ s) = trim s := by
  rw [trim, trimStart, List.dropWhile_append_of_pos blanks]
  rfl

theorem trim_of_blanks (blanks : Blanks s) : trim s = [] := by
  rw [← List.append_nil s]
  exact trim_blanks_append blanks []

def Framed (s : List Char) : Prop :=
  ∃ c a b d, isBlank c = false ∧ isBlank d = false ∧ s = c :: a ∧ s = b ++ [d]

theorem trim_of_framed (framed : Framed s) : trim s = s := by
  obtain ⟨c, a, b, d, first, last, split, split_last⟩ := framed
  have start : trimStart s = s := by simp [trimStart, split, first]
  rw [trim, start, trimEnd, split_last]
  simp [last]

theorem trim_eq_self (first : ∀ c ∈ s.head?, isBlank c = false)
    (last : ∀ c ∈ s.getLast?, isBlank c = false) : trim s = s := by
  cases s with
  | nil => rfl
  | cons c s =>
    obtain ⟨b, d, split⟩ := (List.eq_nil_or_concat' (c :: s)).resolve_left (List.cons_ne_nil c s)
    refine trim_of_framed ⟨c, s, b, d, first c rfl, last d ?_, rfl, split⟩
    rw [split, List.getLast?_concat]
    rfl

theorem framed_of_isWord (word : IsWord w) : Framed w := by
  obtain ⟨c, a, split⟩ := List.exists_cons_of_ne_nil word.filled
  obtain ⟨b, d, split_last⟩ := List.eq_nil_or_concat' w |>.resolve_left word.filled
  refine ⟨c, a, b, d, word.solid c ?_, word.solid d ?_, split, split_last⟩
  · simp [split]
  · simp [split_last]

theorem framed_append (hx : Framed x) (m : List Char) (hy : Framed y) : Framed (x ++ m ++ y) := by
  obtain ⟨c, a, _, _, first, _, split, _⟩ := hx
  obtain ⟨_, _, b, d, _, last, _, split_last⟩ := hy
  exact ⟨c, a ++ m ++ y, x ++ m ++ b, d, first, last, by simp [split], by simp [split_last]⟩

theorem trim_append_blanks (blanks : Blanks b) (s : List Char) : trim (s ++ b) = trim s := by
  by_cases hollow : Blanks s
  · rw [trim_blanks_append hollow, trim, trim, trimStart, trimStart,
      List.dropWhile_eq_nil_iff.mpr blanks, List.dropWhile_eq_nil_iff.mpr hollow]
  · have kept : s.dropWhile isBlank ≠ [] := mt List.dropWhile_eq_nil_iff.mp hollow
    rw [trim, trim, trimStart, trimStart, trimEnd, trimEnd, List.dropWhile_append]
    rw [if_neg (by simpa using kept), List.reverse_append,
      List.dropWhile_append_of_pos fun c member => blanks c (List.mem_reverse.mp member)]

theorem unwords_cons (w : List Char) (filled : ws ≠ []) :
    unwords (w :: ws) = w ++ [' '] ++ unwords ws :=
  List.intercalate_cons_of_ne_nil filled

theorem unwords_append_last (ws : List (List Char)) (a b : List Char) :
    unwords (ws ++ [a ++ b]) = unwords (ws ++ [a]) ++ b := by
  induction ws with
  | nil => simp [unwords]
  | cons w ws ih =>
    rw [List.cons_append, List.cons_append, unwords_cons w (by simp), unwords_cons w (by simp), ih,
      List.append_assoc _ _ b]

theorem mem_intercalate {c sep : Char} {pieces : List (List Char)}
    (member : c ∈ [sep].intercalate pieces) : c = sep ∨ ∃ piece ∈ pieces, c ∈ piece := by
  induction pieces with
  | nil => cases member
  | cons piece pieces ih =>
    by_cases last : pieces = []
    · subst pieces
      rw [List.intercalate_singleton] at member
      exact .inr ⟨piece, List.mem_singleton_self piece, member⟩
    · rw [List.intercalate_cons_of_ne_nil last, List.mem_append, List.mem_append] at member
      rcases member with (inside | between) | later
      · exact .inr ⟨piece, List.mem_cons_self, inside⟩
      · exact .inl (List.mem_singleton.mp between)
      · rcases ih later with between | ⟨other, below, inside⟩
        · exact .inl between
        · exact .inr ⟨other, List.mem_cons_of_mem _ below, inside⟩

theorem framed_unwords (filled : ws ≠ []) (solid : ∀ w ∈ ws, IsWord w) : Framed (unwords ws) := by
  induction ws with
  | nil => contradiction
  | cons w ws ih =>
    have first := framed_of_isWord (solid w List.mem_cons_self)
    by_cases last : ws = []
    · subst ws
      simpa [unwords] using first
    · rw [unwords_cons w last]
      exact framed_append first _ (ih last fun v member => solid v (List.mem_cons_of_mem w member))

theorem words_unwords (solid : ∀ w ∈ ws, IsWord w) : words (unwords ws) = ws := by
  induction ws with
  | nil => simp
  | cons w ws ih =>
    have first := words_of_isWord (solid w List.mem_cons_self)
    have rest := ih fun v member => solid v (List.mem_cons_of_mem w member)
    by_cases last : ws = []
    · subst ws
      simpa [unwords] using first
    · rw [unwords_cons w last, List.append_assoc, List.singleton_append,
        words_append_blank (by decide), first, rest]
      rfl

end CloneScan.Text
