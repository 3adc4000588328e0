import CloneScan.Proofs.Configuration

/-! Overriding as merging. Settings that come from a mapping and are changed afterwards are the settings
of the mapping with the changes put in, and what is refused is refused for the same fault. The values of
the mapping are made into lists and checked before the changes come, which makes no difference
(`check_congr`). So changes in a row are one change. -/
namespace CloneScan.Settings

variable {fields more changes : List (String × Value)} {s t : Settings} {raw other : Raw}

/-! ## Mappings -/

def updated (fields more : List (String × Value)) : List (String × Value) :=
  more.foldl (fun fields field => Value.insertField field.1 field.2 fields) fields

/-- A mapping with changes put in; what says nothing is left out. -/
def overridden (fields changes : List (String × Value)) : List (String × Value) :=
  updated fields (kept changes)

theorem names_insertField (name : String) (v : Value) (fields : List (String × Value)) :
    (Value.insertField name v fields).map (·.1) =
      if name ∈ fields.map (·.1) then fields.map (·.1) else fields.map (·.1) ++ [name] := by
  induction fields with
  | nil => rfl
  | cons field rest ih =>
    by_cases same : field.1 = name
    · simp [Value.insertField, same]
    · rw [Value.insertField, if_neg (by simpa using same), List.map_cons, ih]
      split <;> simp_all [Ne.symm same]

theorem nodup_insertField (distinct : (fields.map (·.1)).Nodup) (name : String) (v : Value) :
    ((Value.insertField name v fields).map (·.1)).Nodup := by
  rw [names_insertField]
  split
  next => exact distinct
  next new =>
    refine List.nodup_append.mpr ⟨distinct, List.nodup_singleton name, ?_⟩
    rintro known member last single rfl
    exact new (List.mem_singleton.mp single ▸ member)

theorem mem_of_mem_insertField {name : String} {v : Value} {field : String × Value}
    (member : field ∈ Value.insertField name v fields) : field = (name, v) ∨ field ∈ fields := by
  induction fields with
  | nil => exact .inl (List.mem_singleton.mp member)
  | cons first rest ih =>
    rw [Value.insertField] at member
    split at member
    · exact (List.mem_cons.mp member).imp_right (List.mem_cons_of_mem first)
    · rcases List.mem_cons.mp member with rfl | later
      · exact .inr List.mem_cons_self
      · exact (ih later).imp_right (List.mem_cons_of_mem first)

theorem mem_of_mem_updated {field : String × Value} (member : field ∈ updated fields more) :
    field ∈ fields ∨ field ∈ more := by
  induction more generalizing fields with
  | nil => exact .inl member
  | cons first rest ih =>
    rcases ih member with before | later
    · rcases mem_of_mem_insertField before with rfl | old
      · exact .inr List.mem_cons_self
      · exact .inl old
    · exact .inr (List.mem_cons_of_mem first later)

theorem said?_eq_none {setting : Setting} (unnamed : setting.name ∉ fields.map (·.1)) :
    said? fields setting = none := by
  rw [said?, List.lookup_eq_none_iff]
  intro field member
  have among : field.1 ∈ fields.map (·.1) := List.mem_map_of_mem (List.mem_reverse.mp member)
  exact bne_iff_ne.mpr fun same => unnamed (same ▸ among)

/-- A field that is put in has the last word on its setting, and on no other one. -/
theorem said?_insertField (distinct : (fields.map (·.1)).Nodup) (name : String) (v : Value)
    (setting : Setting) :
    said? (Value.insertField name v fields) setting =
      if name = setting.name then some v else said? fields setting := by
  induction fields with
  | nil => exact said?_cons (name, v) [] setting
  | cons field rest ih =>
    rw [List.map_cons, List.nodup_cons] at distinct
    obtain ⟨single, distinct⟩ := distinct
    by_cases same : field.1 = name
    · rw [Value.insertField, if_pos (by simpa using same), said?_cons, said?_cons]
      -- the field stands in one place, so that nothing behind it says anything about its setting
      by_cases named : name = setting.name
      · rw [said?_eq_none (named ▸ same ▸ single), if_pos named, if_pos named, Option.none_or]
      · simp [same, named]
    · rw [Value.insertField, if_neg (by simpa using same), said?_cons, said?_cons, ih distinct]
      by_cases named : name = setting.name
      · rw [if_pos named, if_pos named, Option.some_or]
      · rw [if_neg named, if_neg named]

theorem said?_updated (distinct : (fields.map (·.1)).Nodup) (more : List (String × Value))
    (setting : Setting) :
    said? (updated fields more) setting = (said? more setting).or (said? fields setting) := by
  induction more generalizing fields with
  | nil => rfl
  | cons field rest ih =>
    have step : updated fields (field :: rest) =
        updated (Value.insertField field.1 field.2 fields) rest := rfl
    rw [step, ih (nodup_insertField distinct _ _), said?_insertField distinct, said?_cons,
      Option.or_assoc]
    split <;> simp

theorem merge_updated (distinct : (fields.map (·.1)).Nodup) (raw : Raw) (more : List (String × Value)) :
    merge raw (updated fields more) = merge (merge raw fields) more := by
  funext setting
  rw [merge_eq, merge_eq, merge_eq, said?_updated distinct]
  cases said? more setting <;> rfl

theorem values_eq (fields : List (String × Value)) :
    values fields = merge (fun setting => setting.defaultValue) fields := by
  funext setting
  rw [merge_eq, values]

theorem values_updated (distinct : (fields.map (·.1)).Nodup) (more : List (String × Value)) :
    values (updated fields more) = merge (values fields) more := by
  rw [values_eq, values_eq, merge_updated distinct]

theorem kept_append (changes more : List (String × Value)) :
    kept (changes ++ more) = kept changes ++ kept more :=
  List.filter_append ..

theorem foldl_overridden (fields : List (String × Value)) (chain : List (List (String × Value))) :
    chain.foldl overridden fields = updated fields (kept chain.flatten) := by
  induction chain generalizing fields with
  | nil => rfl
  | cons changes rest ih =>
    rw [List.foldl_cons, ih, overridden, updated, updated, updated, ← List.foldl_append,
      List.flatten_cons, kept_append]

/-! ## Values that were checked before -/

/-- The same values, but for settings that are to be lists the same elements are enough. -/
def Alike (raw other : Raw) : Prop := ∀ setting, raw setting = other setting ∨
  setting ∈ Setting.lists ∧ ∃ items,
    (raw setting).elements? = some items ∧ (other setting).elements? = some items

theorem Alike.eq_of_not_list (alike : Alike raw other) {setting : Setting}
    (single : setting ∉ Setting.lists) : raw setting = other setting :=
  (alike setting).resolve_right fun list => single list.1

theorem Alike.elements_eq (alike : Alike raw other) (setting : Setting) :
    elements (raw setting) = elements (other setting) := by
  rcases alike setting with same | ⟨_, items, taken, again⟩
  · rw [same]
  · rw [elements_eq_ok.mpr taken, elements_eq_ok.mpr again]

theorem Alike.positive_eq (alike : Alike raw other) {setting : Setting}
    (single : setting ∉ Setting.lists) : positive raw setting = positive other setting := by
  rw [positive, positive, alike.eq_of_not_list single]

/-- Nothing but the elements of a list is looked at. -/
theorem check_congr (alike : Alike raw other) : check raw = check other := by
  have number (setting : Setting) (single : setting ∉ Setting.lists) := alike.positive_eq single
  have text (setting : Setting) (single : setting ∉ Setting.lists) := alike.eq_of_not_list single
  rw [check, check, alike.elements_eq .blockSizes, alike.elements_eq .extensions,
    alike.elements_eq .excludedDirs, number .minLines (by decide), number .minTokens (by decide),
    number .maxBlocksPerFile (by decide), number .topCount (by decide),
    number .previewLength (by decide), number .consolePreviewLength (by decide),
    number .workers (by decide), text .sourceDir (by decide), text .reportPath (by decide),
    text .utilitiesDir (by decide)]

/-- What accepted settings hold is as good as what was given for them. -/
theorem alike_raw (checked : check raw = .ok s) : Alike s.raw raw := by
  have allowed := check_accepts_iff.mp ⟨s, checked⟩
  rw [raw_of_check checked]
  intro setting
  by_cases list : setting ∈ Setting.lists
  · obtain ⟨items, taken⟩ : ∃ items, (raw setting).elements? = some items := by
      have given := allowed setting
      simp only [Setting.lists, List.mem_cons, List.not_mem_nil, or_false] at list
      rcases list with rfl | rfl | rfl
      · exact ⟨given.choose, given.choose_spec.1⟩
      all_goals exact given
    refine .inr ⟨list, items, ?_, taken⟩
    rw [Raw.listed, if_pos list, taken]
    rfl
  · exact .inl (if_neg list)

theorem Alike.merge (alike : Alike raw other) (changes : List (String × Value)) :
    Alike (Settings.merge raw changes) (Settings.merge other changes) := by
  intro setting
  rw [merge_eq, merge_eq]
  cases said? changes setting with
  | some v => exact .inl rfl
  | none => exact alike setting

/-- Changes to accepted settings are checked with what was given for them. -/
theorem check_merge_raw (checked : check raw = .ok s) (changes : List (String × Value)) :
    check (merge s.raw changes) = check (merge raw changes) :=
  check_congr ((alike_raw checked).merge changes)

/-! ## Changes in a row -/

theorem known_of_replace (replaced : s.replace changes = .ok t) :
    ∀ change ∈ kept changes, ∃ setting : Setting, change.1 = setting.name := by
  rw [replace] at replaced
  split at replaced
  · cases replaced
  split at replaced
  · cases replaced
  next _ none =>
    rw [unknownNames, List.filter_eq_nil_iff] at none
    intro change member
    have found := none change.1 (List.mem_map_of_mem member)
    rw [Bool.not_eq_true, Option.isNone_eq_false_iff, Option.isSome_iff_exists] at found
    exact found.imp fun setting => Setting.ofName?_eq_some_iff.mp

theorem known_of_replaceAll {chain : List (List (String × Value))}
    (replaced : s.replaceAll chain = .ok t) :
    ∀ change ∈ kept chain.flatten, ∃ setting : Setting, change.1 = setting.name := by
  induction chain generalizing s with
  | nil => exact List.forall_mem_nil _
  | cons changes rest ih =>
    rw [replaceAll, List.foldlM_cons] at replaced
    obtain ⟨u, first, later⟩ := bind_eq_ok.mp replaced
    rw [List.flatten_cons, kept_append, List.forall_mem_append]
    exact ⟨known_of_replace first, ih later⟩

/-- Changes in a row, each of them accepted, are checked as one. -/
theorem check_of_replaceAll {chain : List (List (String × Value))}
    (replaced : s.replaceAll chain = .ok t) : check (merge s.raw (kept chain.flatten)) = .ok t := by
  induction chain generalizing s with
  | nil =>
    cases replaced
    exact check_raw _
  | cons changes rest ih =>
    rw [replaceAll, List.foldlM_cons] at replaced
    obtain ⟨u, first, later⟩ := bind_eq_ok.mp replaced
    rw [List.flatten_cons, kept_append, merge_append, ← check_merge_raw (check_of_replace first),
      ih later]

/-- Settings that come from a mapping and are then overridden are the settings of the mapping with the
overriding values put in: the same ones, or the same fault. So changes in a row, each of them accepted,
are one change, made before or after the mapping is read. In it the last value that was given for a
setting counts, an absent value changes nothing, and what nothing is said about has the value of the
mapping or else its default. -/
theorem replace_eq_ofFields_overridden (distinct : (fields.map (·.1)).Nodup)
    (accepted : ofFields fields = .ok s) :
    (∀ changes : List (String × Value),
      (∀ change ∈ changes, ∃ setting : Setting, change.1 = setting.name) →
        s.replace changes = ofFields (overridden fields changes)) ∧
    ∀ chain t, s.replaceAll chain = .ok t →
      ofFields (chain.foldl overridden fields) = .ok t ∧
      s.replace (chain.foldl overridden []) = .ok t ∧
      t.raw = Raw.listed fun setting =>
        ((said? (kept chain.flatten) setting).or (said? fields setting)).getD setting.defaultValue := by
  have checked : check (values fields) = .ok s := by rw [← ofFields_eq, accepted]
  refine ⟨fun changes known => ?_, fun chain t replaced => ?_⟩
  · rw [replace_named known, ← kept, check_merge_raw checked, ← values_updated distinct, ofFields_eq,
      overridden]
  · have whole : ofFields (chain.foldl overridden fields) = .ok t := by
      rw [ofFields_eq, foldl_overridden, values_updated distinct, ← check_merge_raw checked,
        check_of_replaceAll replaced]
    refine ⟨whole, ?_, ?_⟩
    · -- all that is put into the empty mapping was kept of some change before
      have among : ∀ change ∈ chain.foldl overridden [], change ∈ kept chain.flatten := by
        intro change member
        rw [foldl_overridden] at member
        exact (mem_of_mem_updated member).resolve_left List.not_mem_nil
      have said : kept (chain.foldl overridden []) = chain.foldl overridden [] :=
        List.filter_eq_self.mpr fun change member => (List.mem_filter.mp (among change member)).2
      have bare : (([] : List (String × Value)).map (·.1)).Nodup := List.nodup_nil
      have nothing : merge s.raw [] = s.raw := rfl
      rw [replace_named fun change member => known_of_replaceAll replaced change (among change member),
        ← kept, said, foldl_overridden, merge_updated bare, nothing, check_of_replaceAll replaced]
    · rw [ofFields_eq, foldl_overridden] at whole
      rw [raw_of_check whole]
      congr 1
      funext setting
      rw [values, said?_updated distinct]

/-- A mapping with a text where a list is wanted, and with a name that is no setting. -/
def spelledOut : List (String × Value) :=
  [("extensions", .text "ab"), ("colour", .text "red"), ("min_lines", .int 7)]

def ofSpelledOut (workers : Positive) (extensions : List Value) : Settings :=
  { default with minLines := ⟨7, by decide⟩, workers, extensions }

/-- Two changes to `spelledOut` that both know of the workers; the second one has no opinion on the
lines. -/
def secondThoughts : List (List (String × Value)) :=
  [[("workers", .int 2), ("min_lines", .int 7)],
    [("min_lines", .null), ("workers", .int 4), ("extensions", .list [.text ".py"])]]

theorem second_thoughts_count :
    ofFields spelledOut = .ok (ofSpelledOut ⟨1, by decide⟩ [.text "a", .text "b"]) ∧
    (ofSpelledOut ⟨1, by decide⟩ [.text "a", .text "b"]).replaceAll secondThoughts =
      .ok (ofSpelledOut ⟨4, by decide⟩ [.text ".py"]) ∧
    ofFields (secondThoughts.foldl overridden spelledOut) =
      .ok (ofSpelledOut ⟨4, by decide⟩ [.text ".py"]) ∧
    (ofSpelledOut ⟨1, by decide⟩ [.text "a", .text "b"]).replace [("top_n", .bool true)] =
      ofFields (overridden spelledOut [("top_n", .bool true)]) ∧
    ofFields (overridden spelledOut [("top_n", .bool true)]) =
      .error (.notPositive .topCount (.bool true)) := by
  have accepted : ofFields spelledOut = .ok (ofSpelledOut ⟨1, by decide⟩ [.text "a", .text "b"]) := rfl
  have merging := replace_eq_ofFields_overridden (by decide) accepted
  have replaced : (ofSpelledOut ⟨1, by decide⟩ [.text "a", .text "b"]).replaceAll secondThoughts =
      .ok (ofSpelledOut ⟨4, by decide⟩ [.text ".py"]) := rfl
  refine ⟨accepted, replaced, (merging.2 _ _ replaced).1, merging.1 _ ?_, rfl⟩
  exact List.forall_mem_singleton.mpr ⟨.topCount, rfl⟩

end CloneScan.Settings
