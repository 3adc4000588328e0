import CloneScan.Proofs.Words

/-! The blanks between the words of a text. A text that is not blank is its words with its gaps between
them and blanks at either end (`woven_trim`); what looks at one word and one gap after the other is
followed by induction on `Woven`. Collapsed and trimmed, a text is its words with single spaces. -/
namespace CloneScan.Text

/-- The maximal runs of blanks between words. Blanks at either end of a text are no gaps. -/
def gaps (s : List Char) : List (List Char) := runs (fun c => !isBlank c) (trim s)

/-- For each two neighbouring words, whether a line ends between them. -/
def breaks (s : List Char) : List Bool := (gaps s).map fun gap => gap.contains '\n'

structure IsGap (gap : List Char) : Prop where
  filled : gap ≠ []
  blanks : Blanks gap

/-- A text made of words and of the gaps between them, with nothing at either end. -/
inductive Woven : List (List Char) → List (List Char) → List Char → Prop
  | last (word : IsWord w) : Woven [w] [] w
  | next (word : IsWord w) (gap : IsGap g) (rest : Woven ws gs s) :
      Woven (w :: ws) (g :: gs) (w ++ g ++ s)

theorem isWord_cons (visible : isBlank c = false) (solid : ∀ d ∈ w, isBlank d = false) :
    IsWord (c :: w) :=
  ⟨List.cons_ne_nil c w, List.forall_mem_cons.mpr ⟨visible, solid⟩⟩

namespace Woven

theorem isWord (woven : Woven ws gs s) : ∀ w ∈ ws, IsWord w := by
  induction woven with
  | last word => simpa using word
  | next word _ _ ih => exact List.forall_mem_cons.mpr ⟨word, ih⟩

theorem framed (woven : Woven ws gs s) : Framed s := by
  induction woven with
  | last word => exact framed_of_isWord word
  | next word _ _ ih => exact framed_append (framed_of_isWord word) _ ih

theorem words_eq (woven : Woven ws gs s) : words s = ws := by
  induction woven with
  | last word => exact words_of_isWord word
  | next word gap _ ih =>
    rw [words_append_gap gap.filled gap.blanks, words_of_isWord word, ih, List.singleton_append]

theorem runs_eq (woven : Woven ws gs s) : runs (fun c => !isBlank c) s = gs := by
  have ends {w : List Char} (word : IsWord w) : ∀ c ∈ w, (!isBlank c) = true := fun c member => by
    rw [word.solid c member, Bool.not_false]
  induction woven with
  | last word => simpa [runs] using runs_ends_append (ends word) []
  | @next w g ws gs s word gap rest ih =>
    obtain ⟨c, a, _, _, first, _, rfl, _⟩ := rest.framed
    have stop : (!isBlank c) = true := by rw [first, Bool.not_false]
    have solid : ∀ d ∈ g, (!isBlank d) = false := fun d member => by
      rw [gap.blanks d member, Bool.not_true]
    have skip : runs (fun c => !isBlank c) (c :: a) = runs (fun c => !isBlank c) a :=
      runs_ends_append (List.forall_mem_singleton.mpr stop) a
    rw [List.append_assoc, runs_ends_append (ends word), runs_append_end stop,
      runs_of_solid gap.filled solid, ← skip, ih, List.singleton_append]

/-- A visible character in front of a text makes its first word longer. -/
theorem cons (visible : isBlank c = false) (woven : Woven ws gs s) : ∃ vs, Woven vs gs (c :: s) := by
  cases woven with
  | last word => exact ⟨_, .last (isWord_cons visible word.solid)⟩
  | next word gap rest => exact ⟨_, .next (isWord_cons visible word.solid) gap rest⟩

end Woven

theorem blanks_or_woven (s : List Char) : Blanks s ∨ ∃ before ws gs t after,
    Blanks before ∧ Woven ws gs t ∧ Blanks after ∧ s = before ++ t ++ after := by
  -- from the end of the text: a blank goes to those before the words, a visible character joins the
  -- first word or, if blanks stand before that, starts a new one and makes them a gap
  induction s with
  | nil => exact .inl blanks_nil
  | cons c s ih =>
    cases visible : isBlank c with
    | true =>
      rcases ih with blanks | ⟨before, ws, gs, t, after, first, woven, last, rfl⟩
      · exact .inl (blanks_cons.mpr ⟨visible, blanks⟩)
      · exact .inr ⟨c :: before, ws, gs, t, after, blanks_cons.mpr ⟨visible, first⟩, woven, last, rfl⟩
    | false =>
      have single : IsWord [c] := isWord_cons visible (List.forall_mem_nil _)
      rcases ih with blanks | ⟨before, ws, gs, t, after, first, woven, last, rfl⟩
      · exact .inr ⟨[], _, _, [c], s, blanks_nil, .last single, blanks, rfl⟩
      · by_cases touching : before = []
        · obtain ⟨vs, longer⟩ := woven.cons visible
          exact .inr ⟨[], vs, gs, c :: t, after, blanks_nil, longer, last, by simp [touching]⟩
        · exact .inr ⟨[], _, _, [c] ++ before ++ t, after, blanks_nil,
            .next single ⟨touching, first⟩ woven, last, rfl⟩

/-- What trimming leaves of a text is its words with its gaps between them. -/
theorem woven_trim (visible : ¬ Blanks s) : Woven (words s) (gaps s) (trim s) := by
  obtain ⟨before, ws, gs, t, after, first, woven, last, rfl⟩ := (blanks_or_woven s).resolve_left visible
  have trimmed : trim (before ++ t ++ after) = t := by
    rw [trim_append_blanks last, trim_blanks_append first, trim_of_framed woven.framed]
  have gaps : gaps (before ++ t ++ after) = gs := by
    rw [Text.gaps, trimmed, woven.runs_eq]
  rwa [trimmed, gaps, words_append_blanks last, words_blanks_append first, woven.words_eq]

theorem isWord_of_mem_words (member : w ∈ words s) : IsWord w := by
  have visible : ¬ Blanks s := fun blanks => by simp [words_of_blanks blanks] at member
  exact (woven_trim visible).isWord w member

/-- The words of a text can be read off it when it is written with single spaces. -/
theorem words_unwords_words (s : List Char) : words (unwords (words s)) = words s :=
  words_unwords fun _ member => isWord_of_mem_words member

theorem collapse_blanks_append (blanks : Blanks g) (inside : Bool) (s : List Char) :
    collapse inside (g ++ s) =
      if g = [] then collapse inside s
      else if inside then collapse true s else ' ' :: collapse true s := by
  induction g generalizing inside with
  | nil => rfl
  | cons c g ih =>
    have parts := blanks_cons.mp blanks
    rw [List.cons_append, collapse, if_pos parts.1, ih parts.2, if_neg (List.cons_ne_nil c g)]
    simp

theorem collapse_word_append (word : IsWord w) (inside : Bool) (s : List Char) :
    collapse inside (w ++ s) = w ++ collapse false s := by
  obtain ⟨filled, solid⟩ := word
  induction w generalizing inside with
  | nil => contradiction
  | cons c w ih =>
    have parts := List.forall_mem_cons.mp solid
    have skip : collapse false (w ++ s) = w ++ collapse false s := by
      by_cases last : w = []
      · simp [last]
      · exact ih false last parts.2
    rw [List.cons_append, collapse, if_neg (by simp [parts.1]), skip, List.cons_append]

theorem Woven.collapse_append (woven : Woven ws gs t) (inside : Bool) (s : List Char) :
    collapse inside (t ++ s) = unwords ws ++ collapse false s := by
  induction woven generalizing inside with
  | last word => rw [collapse_word_append word, unwords, List.intercalate_singleton]
  | @next w g ws gs t word gap rest ih =>
    have more : ws ≠ [] := by cases rest <;> exact List.cons_ne_nil _ _
    rw [List.append_assoc, List.append_assoc, collapse_word_append word,
      collapse_blanks_append gap.blanks, if_neg gap.filled, ih, unwords_cons w more]
    simp

theorem blanks_space : Blanks [' '] := List.forall_mem_singleton.mpr rfl

theorem blanks_collapse (blanks : Blanks s) : Blanks (collapse false s) := by
  have all := collapse_blanks_append blanks false []
  rw [List.append_nil] at all
  rw [all]
  split
  · exact blanks_nil
  · exact blanks_space

/-- Collapsing and trimming write the words of a text with one space between neighbours. -/
theorem trim_collapse (s : List Char) : trim (collapse false s) = unwords (words s) := by
  rcases blanks_or_woven s with blanks | ⟨before, ws, gs, t, after, first, woven, last, rfl⟩
  · rw [trim_of_blanks (blanks_collapse blanks), words_of_blanks blanks, unwords_nil]
  · have filled : ws ≠ [] := by cases woven <;> exact List.cons_ne_nil _ _
    have whole : trim (unwords ws ++ collapse false after) = unwords ws := by
      rw [trim_append_blanks (blanks_collapse last), trim_of_framed (framed_unwords filled woven.isWord)]
    rw [words_append_blanks last, words_blanks_append first, woven.words_eq, List.append_assoc,
      collapse_blanks_append first]
    split
    · rw [woven.collapse_append, whole]
    · rw [if_neg Bool.false_ne_true, woven.collapse_append]
      exact (trim_blanks_append blanks_space _).trans whole

theorem trim_infix (s : List Char) : trim s <:+: s := by
  obtain ⟨a, b, _, _, split⟩ := trim_split s
  exact ⟨a, b, split.symm⟩

theorem pair_infix_cons : [a, b] <:+: c :: s ↔ (c = a ∧ s.head? = some b) ∨ [a, b] <:+: s := by
  rw [List.infix_cons_iff]
  cases s with
  | nil => simp
  | cons d s => simp [@eq_comm _ a c, @eq_comm _ b d]

/-- The only blanks of a collapsed text are spaces. -/
theorem eq_space_of_mem_collapse (member : c ∈ collapse inside s) (blank : isBlank c = true) :
    c = ' ' := by
  induction s generalizing inside with
  | nil => cases member
  | cons d s ih =>
    rw [collapse] at member
    split at member
    · split at member
      · exact ih member
      · exact (List.mem_cons.mp member).elim id ih
    · rename_i visible
      rcases List.mem_cons.mp member with rfl | later
      · exact absurd blank visible
      · exact ih later

theorem head?_collapse_inside (s : List Char) : (collapse true s).head? ≠ some ' ' := by
  induction s with
  | nil => simp [collapse]
  | cons c s ih =>
    rw [collapse]
    split
    · exact ih
    · rename_i visible
      rintro same
      cases same
      exact visible rfl

theorem no_doubleSpace_collapse (inside : Bool) (s : List Char) :
    ¬ [' ', ' '] <:+: collapse inside s := by
  induction s generalizing inside with
  | nil => simp [collapse]
  | cons c s ih =>
    rw [collapse]
    split
    · split
      · exact ih true
      · rw [pair_infix_cons]
        rintro (⟨_, next⟩ | later)
        · exact head?_collapse_inside s next
        · exact ih true later
    · rename_i visible
      rw [pair_infix_cons]
      rintro (⟨rfl, _⟩ | later)
      · exact visible rfl
      · exact ih false later

/-- A text whose blanks are single spaces already is left alone. -/
theorem collapse_eq_self (spaces : ∀ c ∈ s, isBlank c = true → c = ' ')
    (single : ¬ [' ', ' '] <:+: s) (start : inside = true → s.head? ≠ some ' ') :
    collapse inside s = s := by
  induction s generalizing inside with
  | nil => rfl
  | cons c s ih =>
    rw [pair_infix_cons, not_or] at single
    have later : ∀ d ∈ s, isBlank d = true → d = ' ' := fun d member =>
      spaces d (List.mem_cons_of_mem c member)
    rw [collapse]
    split
    · rename_i blank
      obtain rfl := spaces c List.mem_cons_self blank
      have outside : inside = false := by simpa using start
      rw [outside, if_neg Bool.false_ne_true, ih later single.2 fun _ next => single.1 ⟨rfl, next⟩]
    · rw [ih later single.2 (by simp)]

end CloneScan.Text
