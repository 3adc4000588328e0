import CloneScan.Proofs.Traits

/-! The label of a text. It belongs to the first pattern that describes some part of the text, and a
text that no pattern describes has the label that is left for it. A pattern that describes a part of
some lines describes it too when more lines are read, so more lines give a label that comes no later in
the order of the rules. -/
namespace CloneScan.Rule

open Text

variable {rules : List Rule} {table : List (Pattern × Label)} {code : String} {s : List Char}

theorem classify_cons (rule : Rule) (rules : List Rule) (code : String) :
    classify (rule :: rules) code =
      if rule.applies code.toList then rule.label else classify rules code := by
  rw [classify, List.find?_cons]
  cases rule.applies code.toList <;> rfl

/-! ## The first pattern -/

/-- The label stands beside the first pattern that describes some part of the text, or it is the one
for texts that no pattern describes. -/
def FirstDescribes (table : List (Pattern × Label)) (s : List Char) (label : Label) : Prop :=
  (∃ earlier pattern later, table = earlier ++ (pattern, label) :: later ∧ pattern.Occurs s ∧
    ∀ entry ∈ earlier, ¬ entry.1.Occurs s) ∨
  label = fallback ∧ ∀ entry ∈ table, ¬ entry.1.Occurs s

theorem firstDescribes_cons {entry : Pattern × Label} {label : Label} :
    FirstDescribes (entry :: table) s label ↔
      entry.1.Occurs s ∧ label = entry.2 ∨ ¬ entry.1.Occurs s ∧ FirstDescribes table s label := by
  constructor
  · rintro (⟨earlier, pattern, later, split, occurs, none⟩ | ⟨rfl, none⟩)
    · cases earlier with
      | nil =>
        cases split
        exact .inl ⟨occurs, rfl⟩
      | cons first earlier =>
        cases split
        obtain ⟨absent, none⟩ := List.forall_mem_cons.mp none
        exact .inr ⟨absent, .inl ⟨earlier, pattern, later, rfl, occurs, none⟩⟩
    · obtain ⟨absent, none⟩ := List.forall_mem_cons.mp none
      exact .inr ⟨absent, .inr ⟨rfl, none⟩⟩
  · rintro (⟨occurs, rfl⟩ | ⟨absent, ⟨earlier, pattern, later, rfl, occurs, none⟩ | ⟨rfl, none⟩⟩)
    · exact .inl ⟨[], entry.1, table, rfl, occurs, List.forall_mem_nil _⟩
    · exact .inl ⟨entry :: earlier, pattern, later, rfl, occurs,
        List.forall_mem_cons.mpr ⟨absent, none⟩⟩
    · exact .inr ⟨rfl, List.forall_mem_cons.mpr ⟨absent, none⟩⟩

/-- Rules that read patterns label a text after the first pattern that describes some part of it. -/
theorem classify_eq_iff (reads : List.Forall₂ Reads rules table) (code : String) (label : Label) :
    classify rules code = label ↔ FirstDescribes table code.toList label := by
  induction reads with
  | nil =>
    have bare : classify [] code = fallback := rfl
    simp [bare, FirstDescribes, eq_comm (a := label)]
  | cons first _ ih =>
    rw [classify_cons, firstDescribes_cons, ← ih, ← first.applies, ← first.label]
    split
    next applies => simp [applies, eq_comm]
    next other => simp [other]

/-- The last pattern gives the label if no pattern before describes a part of the text. -/
theorem category_eq_last_iff {front : List (Pattern × Label)} {last : Pattern × Label} {label : Label}
    (named : last.2.category ∉ front.map (·.2.category)) (told : fallback.category ≠ last.2.category)
    (first : FirstDescribes (front ++ [last]) s label) :
    label.category = last.2.category ↔ (∀ entry ∈ front, ¬ entry.1.Occurs s) ∧ last.1.Occurs s := by
  induction front with
  | nil =>
    rcases firstDescribes_cons.mp first with ⟨occurs, rfl⟩ | ⟨absent, ⟨_, _, _, split, _⟩ | ⟨rfl, _⟩⟩
    · simp [occurs]
    · simp at split
    · simp [told, absent]
  | cons entry front ih =>
    rw [List.map_cons, List.mem_cons, not_or] at named
    rcases firstDescribes_cons.mp first with ⟨occurs, rfl⟩ | ⟨absent, later⟩
    · simp [Ne.symm named.1, occurs]
    · rw [ih named.2 later, List.forall_mem_cons]
      simp [absent]

/-- What the pattern of branches describes, written out. -/
theorem occurs_twoArms : Pattern.twoArms.Occurs s ↔
    ∃ gap₁ condition gap₂ body gap₃, Blanks gap₁ ∧ Blanks gap₂ ∧ Blanks gap₃ ∧ '\n' ∉ condition ∧
      "if".toList ++ gap₁ ++ ['('] ++ condition ++ [')'] ++ gap₂ ++ ['\x7b'] ++ body ++ ['\x7d'] ++
        gap₃ ++ "else".toList <:+: s := by
  have inLine (condition : List Char) :
      (∀ c ∈ condition, (c != '\n') = true) ↔ '\n' ∉ condition := by
    simp only [bne_iff_ne]
    exact ⟨fun apart member => apart _ member rfl, fun absent c member same => absent (same ▸ member)⟩
  simp only [Pattern.occurs_iff_opens, Pattern.twoArms, Pattern.gap, Pattern.inOrder,
    Pattern.opens_mark_next, Pattern.opens_mark, Pattern.opens_many_next, inLine]
  constructor
  · rintro ⟨before, _, rfl, _, rfl, gap₁, _, rfl, first, _, rfl, condition, _, rfl, line, _, rfl, gap₂, _,
      rfl, second, _, rfl, body, _, rfl, _, _, rfl, gap₃, _, rfl, third, after, rfl, _⟩
    refine ⟨gap₁, condition, gap₂, body, gap₃, first, second, third, line, before, after, ?_⟩
    simp
  · rintro ⟨gap₁, condition, gap₂, body, gap₃, first, second, third, line, before, after, rfl⟩
    refine ⟨before, _, ?_, _, rfl, gap₁, _, rfl, first, _, rfl, condition, _, rfl, line, _, rfl, gap₂, _,
      rfl, second, _, rfl, body, _, rfl, fun _ _ => trivial, _, rfl, gap₃, _, rfl, third, _, rfl,
      after, rfl⟩
    simp

/-- A text has the label of the first of the seven patterns that describes some part of it, and the one
that is left if none does. So it is named after a branch if no earlier pattern describes a part of it
and it holds a condition on one line, an arm and an `else`, with nothing but blanks between them. -/
theorem classify_standard_iff (code : String) :
    (∀ label, classify standard code = label ↔
      FirstDescribes Pattern.standard code.toList label) ∧
    ((classify standard code).category = "conditional-logic" ↔
      (∀ entry ∈ Pattern.standard.dropLast, ¬ entry.1.Occurs code.toList) ∧
      ∃ gap₁ condition gap₂ body gap₃, Blanks gap₁ ∧ Blanks gap₂ ∧ Blanks gap₃ ∧ '\n' ∉ condition ∧
        "if".toList ++ gap₁ ++ ['('] ++ condition ++ [')'] ++ gap₂ ++ ['\x7b'] ++ body ++ ['\x7d'] ++
          gap₃ ++ "else".toList <:+: code.toList) := by
  have labels := classify_eq_iff standard_reads code
  refine ⟨labels, ?_⟩
  have entries : Pattern.standard = Pattern.standard.dropLast ++
      [(Pattern.twoArms, ⟨"conditional-logic", "Extract to named function for clarity"⟩)] := rfl
  have first := (labels _).mp rfl
  rw [entries] at first
  rw [← occurs_twoArms]
  exact category_eq_last_iff (by decide) (by decide) first

/-! ## Order -/

/-- The place of a category in the order of the rules. A category of no rule comes last. -/
def rank (category : String) : Nat := (standard.map (·.label.category)).idxOf category

def widened (above : Option String) (code : String) (below : Option String) : String :=
  above.elim "" (· ++ "\n") ++ code ++ below.elim "" ("\n" ++ ·)

theorem category_mem (rules : List Rule) (code : String) :
    (classify rules code).category ∈ fallback.category :: rules.map (·.label.category) := by
  rw [classify]
  cases found : rules.find? (·.applies code.toList) with
  | none => exact List.mem_cons_self
  | some rule =>
    exact List.mem_cons_of_mem _ (List.mem_map_of_mem (List.mem_of_find?_eq_some found))

/-- The place of a label among distinct ones is the place of the first rule that applies. -/
theorem idxOf_category (distinct : (fallback.category :: rules.map (·.label.category)).Nodup)
    (code : String) : (rules.map (·.label.category)).idxOf (classify rules code).category =
      rules.findIdx (·.applies code.toList) := by
  induction rules with
  | nil => rfl
  | cons rule rules ih =>
    rw [List.map_cons, List.nodup_cons, List.mem_cons, not_or, List.nodup_cons] at distinct
    obtain ⟨⟨told, others⟩, single, distinct⟩ := distinct
    rw [classify_cons, List.map_cons, List.findIdx_cons]
    cases rule.applies code.toList with
    | true => simp
    | false =>
      have apart : rule.label.category ≠ (classify rules code).category := by
        intro same
        rcases List.mem_cons.mp (category_mem rules code) with bare | named
        · exact told (bare.symm.trans same.symm)
        · exact single (same ▸ named)
      simp [List.idxOf_cons_ne _ apart, ih (List.nodup_cons.mpr ⟨others, distinct⟩)]

/-- Lines around a text leave alone what patterns describe in it. -/
theorem occurs_widened {p : Pattern} (occurs : p.Occurs code.toList) (above below : Option String) :
    p.Occurs (widened above code below).toList := by
  -- a line break is no word character, so no word runs from line to line
  have front : Pattern.wordBefore (above.elim "" (· ++ "\n")).toList = false := by
    cases above with
    | none => rfl
    | some lines =>
      rw [Option.elim_some, String.toList_append, Pattern.wordBefore_append, if_neg (by decide)]
      decide
  have back : Pattern.wordAfter (below.elim "" ("\n" ++ ·)).toList = false := by
    cases below with
    | none => rfl
    | some lines =>
      rw [Option.elim_some, String.toList_append, Pattern.wordAfter_append, if_neg (by decide)]
      decide
  rw [widened, String.toList_append, String.toList_append]
  exact occurs.within front back

/-- A text that is read with the lines around it never gets a label that comes later in the order of the
rules. -/
theorem rank_widened_le (above below : Option String) (code : String) :
    rank (classify standard (widened above code below)).category ≤
      rank (classify standard code).category := by
  rw [rank, rank, idxOf_category (by decide), idxOf_category (by decide)]
  refine List.findIdx_le_findIdx fun rule member applies => ?_
  obtain ⟨pairs, reads, rules, _⟩ := exists_pairs standard_reads
  rw [← rules] at member
  obtain ⟨pair, listed, rfl⟩ := List.mem_map.mp member
  rw [(reads pair listed).applies] at applies ⊢
  exact occurs_widened applies above below

/-- Text that is no line of its own can make a word longer, and then it is another word. -/
example : rank (classify standard "fetch(").category = 1 ∧
    rank (classify standard "prefetch(").category = 7 := by decide +kernel

end CloneScan.Rule
