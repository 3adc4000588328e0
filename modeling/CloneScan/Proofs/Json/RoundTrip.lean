import CloneScan.Proofs.Json.Scalar
import CloneScan.Proofs.Json.Text
import Mathlib.Data.List.Induction

/-! What is written is what is read. A written value is followed by a comma or a line end, where every
reader stops, and between the parts of a value stands nothing but space. So each value is read from
its own text, whatever comes after it, and the text of a whole value gives the value back. -/
namespace CloneScan.Json

/-- A first character that is taken neither for space nor for a closing bracket. -/
def Begins (s : List Char) : Prop :=
  ∃ c more, s = c :: more ∧ isSpace c = false ∧ c ≠ ']' ∧ c ≠ '\uFEFF'

theorem skipSpace_begins {s : List Char} (begins : Begins s) (rest : List Char) :
    skipSpace (s ++ rest) = s ++ rest := by
  obtain ⟨c, more, rfl, visible, _⟩ := begins
  exact List.dropWhile_cons_of_neg (by simp [visible])

theorem Begins.head?_append {s : List Char} (begins : Begins s) (rest : List Char) :
    (s ++ rest).head? ≠ some ']' := by
  obtain ⟨c, more, rfl, _, other, _⟩ := begins
  exact fun same => other (Option.some.inj same)

theorem skipSpace_newline (level : Nat) (s : List Char) :
    skipSpace (newline level ++ s) = skipSpace s := by
  refine List.dropWhile_append_of_pos fun c member => ?_
  rcases List.mem_cons.mp member with rfl | space
  · rfl
  · rw [List.eq_of_mem_replicate space]
    rfl

theorem breaks_newline (level : Nat) (s : List Char) : Breaks (newline level ++ s) := by
  intro c first
  exact .inr (Option.some.inj first).symm

theorem breaks_comma (s : List Char) : Breaks (',' :: s) := by
  intro c first
  exact .inl (Option.some.inj first).symm

theorem carriageReturn_not_mem_newline (level : Nat) : '\r' ∉ newline level := by
  intro member
  rcases List.mem_cons.mp member with first | space
  · exact absurd first (by decide)
  · exact absurd (List.eq_of_mem_replicate space) (by decide)

/-- A text that is read as one value wherever a value may end after it. -/
structure ReadsAs (levels : Nat) (s : List Char) (v : Value) : Prop where
  begins : Begins s
  flat : '\r' ∉ s
  read : ∀ {rest}, Breaks rest → readValue levels (s ++ rest) = .ok (v, rest)

theorem readValue_scalar {levels : Nat} {c : Char} {s : List Char} (scalar : isScalarChar c = true) :
    readValue levels (c :: s) = readScalar (c :: s) := by
  unfold readValue
  split
  next same => exact absurd ((List.cons.inj same).1 ▸ scalar) (by decide)
  next same => exact absurd ((List.cons.inj same).1 ▸ scalar) (by decide)
  next same => exact absurd ((List.cons.inj same).1 ▸ scalar) (by decide)
  next => rfl

theorem not_scalar_of_isSpace {c : Char} (space : isSpace c = true) : isScalarChar c = false := by
  simp only [isSpace, Bool.or_eq_true, beq_iff_eq] at space
  rcases space with ((rfl | rfl) | rfl) | rfl <;> rfl

theorem readsAs_scalar {levels : Nat} {s : List Char} {v : Value}
    (scalar : ∀ c ∈ s, isScalarChar c = true) (alone : readScalar s = .ok (v, [])) :
    ReadsAs levels s v := by
  cases s with
  | nil => cases alone
  | cons c s =>
    have first := scalar c List.mem_cons_self
    refine ⟨⟨c, s, rfl, ?_, ?_, ?_⟩, fun member => ?_, fun breaks => ?_⟩
    · refine Bool.eq_false_iff.mpr fun space => ?_
      rw [not_scalar_of_isSpace space] at first
      cases first
    · rintro rfl
      exact absurd first (by decide)
    · rintro rfl
      exact absurd first (by decide)
    · exact absurd (scalar _ member) (by decide)
    · rw [List.cons_append, readValue_scalar first]
      exact readScalar_breaks breaks alone

theorem readsAs_word {levels : Nat} {word : String} {v : Value}
    (scalar : word.toList.all isScalarChar = true)
    (alone : readScalar word.toList = .ok (v, [])) : ReadsAs levels word.toList v :=
  readsAs_scalar (List.all_eq_true.mp scalar) alone

theorem readsAs_text (levels : Nat) (s : String) : ReadsAs levels (writeText s) (.text s) := by
  refine ⟨⟨'"', _, rfl, by decide⟩, carriageReturn_not_mem_writeText s, fun {rest} _ => ?_⟩
  simp only [writeText, List.cons_append, List.append_assoc]
  rw [readValue, readText_flatMap_escape]
  simp [Except.map]

section Items

variable {read : List Char → Step Value} {fuel : Nat} {s rest more tail : List Char} {v : Value}

theorem readItems_last (item : read s = .ok (v, rest)) (close : skipSpace rest = ']' :: tail) :
    readItems read (fuel + 1) s = .ok ([v], tail) := by
  simp [readItems, item, close, bind, Except.bind, pure, Except.pure]

theorem readItems_more {items : List Value} (item : read s = .ok (v, rest))
    (comma : skipSpace rest = ',' :: more)
    (others : readItems read fuel (skipSpace more) = .ok (items, tail)) :
    readItems read (fuel + 1) s = .ok (v :: items, tail) := by
  simp [readItems, item, comma, others, bind, Except.bind, pure, Except.pure]

end Items

/-- Elements that are read each from its own text are read together, up to the bracket that closes
them. -/
theorem readItems_written {levels level outer fuel : Nat} {v : Value} {rest : List Value}
    (each : ∀ w ∈ v :: rest, ReadsAs levels (write level w) w) (enough : rest.length < fuel)
    (tail : List Char) :
    readItems (readValue levels) fuel
      (write level v ++ (writeItems level rest ++ (newline outer ++ ']' :: tail))) =
        .ok (v :: rest, tail) := by
  -- By induction on what follows the first element: a line end closes the list, or a comma goes on.
  induction rest generalizing v fuel with
  | nil =>
    cases fuel with
    | zero => cases enough
    | succ fuel =>
      have first := each v List.mem_cons_self
      exact readItems_last (first.read (breaks_newline outer _)) (skipSpace_newline outer _)
  | cons w rest ih =>
    cases fuel with
    | zero => cases enough
    | succ fuel =>
      have first := each v List.mem_cons_self
      have second := each w (List.mem_cons_of_mem _ List.mem_cons_self)
      have others := ih (fun u member => each u (List.mem_cons_of_mem _ member))
        (Nat.lt_of_succ_lt_succ enough)
      simp only [writeItems, List.cons_append, List.append_assoc]
      apply readItems_more (first.read (breaks_comma _)) rfl
      rw [skipSpace_newline, skipSpace_begins second.begins]
      exact others

/-- Every element after the first takes a comma at least. -/
theorem length_le_writeItems (level : Nat) (items : List Value) :
    items.length ≤ (writeItems level items).length := by
  induction items with
  | nil => exact Nat.le_refl 0
  | cons v rest ih =>
    simp only [writeItems, List.length_cons, List.length_append]
    omega

theorem carriageReturn_not_mem_writeItems {level : Nat} {items : List Value}
    (flat : ∀ v ∈ items, '\r' ∉ write level v) : '\r' ∉ writeItems level items := by
  induction items with
  | nil => exact List.not_mem_nil
  | cons v rest ih =>
    have first := flat v List.mem_cons_self
    have others := ih fun w member => flat w (List.mem_cons_of_mem _ member)
    simp [writeItems, carriageReturn_not_mem_newline, first, others]

theorem readValue_items {levels : Nat} {s t tail : List Char} {items : List Value}
    (opening : skipSpace s = t) (filled : t.head? ≠ some ']')
    (read : readItems (readValue levels) (t.length + 1) t = .ok (items, tail)) :
    readValue (levels + 1) ('[' :: s) = .ok (.list items, tail) := by
  rw [readValue, opening]
  split
  next => exact absurd rfl filled
  next => rw [read]; rfl

theorem readsAs_list {levels level : Nat} {items : List Value}
    (each : ∀ v ∈ items, ReadsAs levels (write (level + 1) v) v) :
    ReadsAs (levels + 1) (write level (.list items)) (.list items) := by
  cases items with
  | nil => exact ⟨⟨'[', _, rfl, by decide⟩, by rw [write]; decide, fun _ => rfl⟩
  | cons v rest =>
    have first := each v List.mem_cons_self
    refine ⟨⟨'[', _, rfl, by decide⟩, ?_, fun {tail} _ => ?_⟩
    · have others := carriageReturn_not_mem_writeItems fun w (member : w ∈ rest) =>
        (each w (List.mem_cons_of_mem _ member)).flat
      simp [write, carriageReturn_not_mem_newline, first.flat, others]
    · simp only [write, List.cons_append, List.append_assoc, List.nil_append]
      apply readValue_items
      · rw [skipSpace_newline, skipSpace_begins first.begins]
      · exact first.begins.head?_append _
      · refine readItems_written each ?_ tail
        have short := length_le_writeItems (level + 1) rest
        simp only [List.length_append]
        omega

section Fields

variable {read : List Char → Step Value} {fuel : Nat} {s rest more tail : List Char}
  {name : String} {v : Value}

theorem readText_written (opening : List Char) :
    readText opening none ((writeText name).tail ++ rest) = .ok (name.toList, rest) := by
  rw [writeText, List.cons_append, List.tail_cons, List.append_assoc]
  exact readText_flatMap_escape opening name.toList rest

theorem readFields_named (item : read s = .ok (v, rest)) (space : skipSpace s = s) :
    readFields read (fuel + 1) (writeText name ++ ':' :: ' ' :: s) =
      match skipSpace rest with
      | '\x7d' :: tail => .ok ([(name, v)], tail)
      | ',' :: more => do
        let (fields, tail) ← readFields read fuel (skipSpace more)
        .ok ((name, v) :: fields, tail)
      | rest => .error ⟨.expectingComma, rest⟩ := by
  have blank : skipSpace (' ' :: s) = s := space
  have colon : skipSpace (':' :: ' ' :: s) = ':' :: ' ' :: s := rfl
  have text : writeText name = '"' :: (writeText name).tail := rfl
  rw [text, List.cons_append, readFields]
  simp only [readText_written, bind, Except.bind, colon, blank, item, String.ofList_toList]
  rfl

theorem readFields_last (item : read s = .ok (v, rest)) (space : skipSpace s = s)
    (close : skipSpace rest = '\x7d' :: tail) :
    readFields read (fuel + 1) (writeText name ++ ':' :: ' ' :: s) = .ok ([(name, v)], tail) := by
  rw [readFields_named item space, close]
  rfl

theorem readFields_more {fields : List (String × Value)} (item : read s = .ok (v, rest))
    (space : skipSpace s = s) (comma : skipSpace rest = ',' :: more)
    (others : readFields read fuel (skipSpace more) = .ok (fields, tail)) :
    readFields read (fuel + 1) (writeText name ++ ':' :: ' ' :: s) =
      .ok ((name, v) :: fields, tail) := by
  rw [readFields_named item space, comma]
  simp only [others]
  rfl

end Fields

/-- Fields whose values are read each from its own text are read together, up to the brace that
closes them. -/
theorem readFields_written {levels level outer fuel : Nat} {name : String} {v : Value}
    {rest : List (String × Value)}
    (each : ∀ field ∈ (name, v) :: rest, ReadsAs levels (write level field.2) field.2)
    (enough : rest.length < fuel) (tail : List Char) :
    readFields (readValue levels) fuel
      (writeText name ++ ':' :: ' ' :: (write level v ++
        (writeFields level rest ++ (newline outer ++ '\x7d' :: tail)))) =
        .ok ((name, v) :: rest, tail) := by
  induction rest generalizing name v fuel with
  | nil =>
    cases fuel with
    | zero => cases enough
    | succ fuel =>
      have first := each (name, v) List.mem_cons_self
      exact readFields_last (first.read (breaks_newline outer _))
        (skipSpace_begins first.begins _) (skipSpace_newline outer _)
  | cons field rest ih =>
    cases fuel with
    | zero => cases enough
    | succ fuel =>
      have first := each (name, v) List.mem_cons_self
      have others := ih (fun u member => each u (List.mem_cons_of_mem _ member))
        (Nat.lt_of_succ_lt_succ enough)
      simp only [writeFields, List.cons_append, List.append_assoc, List.nil_append]
      apply readFields_more (first.read (breaks_comma _)) (skipSpace_begins first.begins _) rfl
      rw [skipSpace_newline, skipSpace_begins (readsAs_text levels field.1).begins]
      exact others

theorem length_le_writeFields (level : Nat) (fields : List (String × Value)) :
    fields.length ≤ (writeFields level fields).length := by
  induction fields with
  | nil => exact Nat.le_refl 0
  | cons field rest ih =>
    simp only [writeFields, List.length_cons, List.length_append]
    omega

theorem carriageReturn_not_mem_writeFields {level : Nat} {fields : List (String × Value)}
    (flat : ∀ field ∈ fields, '\r' ∉ write level field.2) : '\r' ∉ writeFields level fields := by
  induction fields with
  | nil => exact List.not_mem_nil
  | cons field rest ih =>
    have first := flat field List.mem_cons_self
    have others := ih fun w member => flat w (List.mem_cons_of_mem _ member)
    simp [writeFields, carriageReturn_not_mem_newline, carriageReturn_not_mem_writeText, first,
      others]

theorem insertField_of_new {name : String} (v : Value) {fields : List (String × Value)}
    (new : name ∉ fields.map (·.1)) : Value.insertField name v fields = fields ++ [(name, v)] := by
  induction fields with
  | nil => rfl
  | cons field rest ih =>
    rw [List.map_cons, List.mem_cons, not_or] at new
    have other : (field.1 == name) = false := beq_false_of_ne (Ne.symm new.1)
    simp [Value.insertField, other, ih new.2]

/-- Fields of different names are kept as they are. -/
theorem distinct_of_nodup {fields : List (String × Value)} (names : (fields.map (·.1)).Nodup) :
    distinct fields = fields := by
  induction fields using List.reverseRecOn with
  | nil => rfl
  | append_singleton front field ih =>
    rw [List.map_append, List.nodup_append] at names
    obtain ⟨frontNames, _, apart⟩ := names
    have new : field.1 ∉ front.map (·.1) :=
      fun member => apart field.1 member field.1 List.mem_cons_self rfl
    have last : distinct (front ++ [field]) =
        Value.insertField field.1 field.2 (distinct front) := by
      rw [distinct, List.foldl_append]
      rfl
    rw [last, ih frontNames, insertField_of_new field.2 new]

theorem readValue_fields {levels : Nat} {s t tail : List Char} {fields : List (String × Value)}
    (opening : skipSpace s = t) (filled : t.head? ≠ some '\x7d')
    (read : readFields (readValue levels) (t.length + 1) t = .ok (fields, tail)) :
    readValue (levels + 1) ('\x7b' :: s) = .ok (.record (distinct fields), tail) := by
  rw [readValue, opening]
  split
  next => exact absurd rfl filled
  next => rw [read]; rfl

theorem readsAs_record {levels level : Nat} {fields : List (String × Value)}
    (names : (fields.map (·.1)).Nodup)
    (each : ∀ field ∈ fields, ReadsAs levels (write (level + 1) field.2) field.2) :
    ReadsAs (levels + 1) (write level (.record fields)) (.record fields) := by
  match fields with
  | [] => exact ⟨⟨'\x7b', _, rfl, by decide⟩, by rw [write]; decide, fun _ => rfl⟩
  | (name, v) :: rest =>
    have first := each (name, v) List.mem_cons_self
    refine ⟨⟨'\x7b', _, rfl, by decide⟩, ?_, fun {tail} _ => ?_⟩
    · have others := carriageReturn_not_mem_writeFields fun field (member : field ∈ rest) =>
        (each field (List.mem_cons_of_mem _ member)).flat
      simp [write, carriageReturn_not_mem_newline, carriageReturn_not_mem_writeText, first.flat,
        others]
    · have read : readValue (levels + 1) (write level (.record ((name, v) :: rest)) ++ tail) =
          .ok (.record (distinct ((name, v) :: rest)), tail) := by
        simp only [write, List.cons_append, List.append_assoc, List.nil_append]
        apply readValue_fields
        · rw [skipSpace_newline, skipSpace_begins (readsAs_text levels name).begins]
        · exact fun same => absurd (Option.some.inj same) (by decide)
        · refine readFields_written each ?_ tail
          have short := length_le_writeFields (level + 1) rest
          simp only [List.length_append, List.length_cons]
          omega
      rwa [distinct_of_nodup names] at read

/-- Values without moments, whose records name each field once and whose binary numbers are read
from what is written of them. -/
inductive Kept : Value → Prop where
  | null : Kept .null
  | bool (b : Bool) : Kept (.bool b)
  | int (i : Int) : Kept (.int i)
  | float (x : Binary64) (lossless : Lossless x) : Kept (.float x)
  | text (s : String) : Kept (.text s)
  | list (items : List Value) (inside : ∀ v ∈ items, Kept v) : Kept (.list items)
  | record (fields : List (String × Value)) (names : (fields.map (·.1)).Nodup)
      (inside : ∀ field ∈ fields, Kept field.2) : Kept (.record fields)

theorem writeFaultIn?_eq_none {levels : Nat} {items : List Value} :
    Value.writeFaultIn? levels items = none ↔
      ∀ v ∈ items, v.writeFaultWithin? levels = none := by
  induction items with
  | nil => simp [Value.writeFaultIn?]
  | cons v rest ih => simp [Value.writeFaultIn?, ih]

theorem writeFaultInFields?_eq_none {levels : Nat} {fields : List (String × Value)} :
    Value.writeFaultInFields? levels fields = none ↔
      ∀ field ∈ fields, field.2.writeFaultWithin? levels = none := by
  induction fields with
  | nil => simp [Value.writeFaultInFields?]
  | cons field rest ih => simp [Value.writeFaultInFields?, ih]

/-- A value that can be written is read from its text. -/
theorem Kept.readsAs {v : Value} (kept : Kept v) {levels : Nat}
    (writable : v.writeFaultWithin? levels = none) (level : Nat) :
    ReadsAs levels (write level v) v := by
  induction kept generalizing levels level with
  | null => exact @readsAs_word levels "null" .null (by decide) rfl
  | bool b =>
    cases b with
    | false => exact @readsAs_word levels "false" (.bool false) (by decide) rfl
    | true => exact @readsAs_word levels "true" (.bool true) (by decide) rfl
  | int i =>
    -- The limit on what is written is the limit on what is read.
    have short : Numeral.isWritable i = true := by
      simpa [Value.writeFaultWithin?, Value.writeIntFault?] using writable
    exact readsAs_scalar (isScalarChar_of_mem_ofInt i) (readScalar_ofInt short)
  | float x lossless => exact readsAs_scalar (isScalarChar_of_mem_chars x) lossless
  | text s => exact readsAs_text levels s
  | list items _ ih =>
    cases levels with
    | zero => cases writable
    | succ levels =>
      have each := writeFaultIn?_eq_none.mp writable
      exact readsAs_list fun v member => ih v member (each v member) (level + 1)
  | record fields names _ ih =>
    cases levels with
    | zero => cases writable
    | succ levels =>
      have each := writeFaultInFields?_eq_none.mp writable
      exact readsAs_record names fun field member =>
        ih field member (each field member) (level + 1)

theorem toList_render (v : Value) : (render v ++ "\n").toList = write 0 v ++ ['\n'] := by
  simp [render]

theorem carriageReturn_not_mem_render {v : Value} (kept : Kept v) (writable : v.writeFault? = none) :
    '\r' ∉ (render v ++ "\n").toList := by
  rw [toList_render, List.mem_append, not_or]
  exact ⟨(kept.readsAs writable 0).flat, by decide⟩

/-- Reading undoes writing: a value that can be written is the value of its text. -/
theorem read_render {v : Value} (kept : Kept v) (writable : v.writeFault? = none) :
    read (render v ++ "\n") = .ok v := by
  have whole := kept.readsAs writable 0
  have unmarked : ∀ more, write 0 v ++ ['\n'] ≠ '\uFEFF' :: more := by
    obtain ⟨c, more, same, _, _, mark⟩ := whole.begins
    rw [same]
    exact fun _ marked => mark (List.cons.inj marked).1
  rw [read, toList_render, readChars]
  · have ending : Breaks ['\n'] := breaks_newline 0 []
    rw [skipSpace_begins whole.begins, whole.read ending]
    rfl
  · exact unmarked

end CloneScan.Json
