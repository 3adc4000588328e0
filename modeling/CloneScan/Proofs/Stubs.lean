import CloneScan.Proofs.Findings
import CloneScan.Proofs.LiveText
import CloneScan.Proofs.Location
import Mathlib.Data.List.Infix

/-! What of a stub is not commented out. The suggestion and the places stand in a block comment, which
nothing closes early that does not hold the closing mark itself, and each line of the code has a line
comment of its own. So the words of a stub outside its comments are those of its signature and of
the one statement in its body. -/
namespace CloneScan

namespace Text

def isTokenChar (c : Char) : Bool := c.isAlphanum || c == '-'

theorem isBlank_of_isTokenChar (token : isTokenChar c = true) : isBlank c = false := by
  by_contra blank
  simp only [Bool.not_eq_false, isBlank, Bool.or_eq_true, Bool.and_eq_true, decide_eq_true_eq,
    beq_iff_eq] at blank
  simp only [isTokenChar, Bool.or_eq_true, beq_iff_eq] at token
  rcases token with alphanumeric | rfl
  · have ranges : (decide (c.val ≥ 65 ∧ c.val ≤ 90) || (decide (c.val ≥ 97) && decide (c.val ≤ 122)) ||
        (decide (c.val ≥ 48) && decide (c.val ≤ 57))) = true := alphanumeric
    have code : c.val.toNat = c.toNat := rfl
    simp [UInt32.le_iff_toNat_le, code] at ranges
    omega
  · simp at blank

def IsToken (s : List Char) : Prop := ∀ c ∈ s, isTokenChar c = true

theorem IsToken.append (front : IsToken s) (back : IsToken t) : IsToken (s ++ t) :=
  List.forall_mem_append.mpr ⟨front, back⟩

theorem IsToken.absent (token : IsToken s) (other : isTokenChar c = false) : c ∉ s := by
  intro member
  simp [token c member] at other

theorem isToken_ofNat (n : Nat) : IsToken (Numeral.ofNat n) := by
  have digits : ∀ d < 10, isTokenChar (Numeral.digit d) = true := by decide
  intro c member
  obtain ⟨d, small, rfl⟩ := Numeral.mem_ofNat n c member
  exact digits d small

theorem isToken_text (i : Int) : IsToken (Numeral.text i).toList := by
  rw [Numeral.text, String.toList_ofList]
  cases i with
  | ofNat n => exact isToken_ofNat n
  | negSucc n => exact List.forall_mem_cons.mpr ⟨by decide, isToken_ofNat (n + 1)⟩

/-- The words of an argument list that follows on a text at once: each name carries the mark that
stands after it. -/
def argumentWords (front : List Char) : List (List Char) → List (List Char)
  | [] => [front ++ [')']]
  | [p] => [front ++ p ++ [')']]
  | p :: q :: rest => (front ++ p ++ [',']) :: argumentWords [] (q :: rest)

theorem argumentWords_ne_nil (front : List Char) (ps : List (List Char)) :
    argumentWords front ps ≠ [] := by
  fun_cases argumentWords front ps <;> simp

theorem unwords_argumentWords (front : List Char) (ps : List (List Char)) :
    unwords (argumentWords front ps) = front ++ [',', ' '].intercalate ps ++ [')'] := by
  fun_induction argumentWords front ps with
  | case1 front => simp [unwords]
  | case2 front p => simp [unwords]
  | case3 front p q rest ih =>
    rw [unwords_cons _ (argumentWords_ne_nil _ _), ih,
      List.intercalate_cons_of_ne_nil (List.cons_ne_nil q rest)]
    simp

theorem forall_mem_argumentWords {p : Char → Prop} (front : ∀ c ∈ s, p c)
    (names : ∀ a ∈ ps, ∀ c ∈ a, p c) (comma : p ',') (close : p ')') :
    ∀ w ∈ argumentWords s ps, ∀ c ∈ w, p c := by
  have marked {w : List Char} {c : Char} (whole : ∀ c ∈ w, p c) (mark : p c) :
      ∀ d ∈ w ++ [c], p d := List.forall_mem_append.mpr ⟨whole, by simpa using mark⟩
  fun_induction argumentWords s ps with
  | case1 s => simpa using marked front close
  | case2 s a =>
    have whole := List.forall_mem_append.mpr ⟨front, names a List.mem_cons_self⟩
    simpa using marked whole close
  | case3 s a b rest ih =>
    have whole := List.forall_mem_append.mpr ⟨front, names a List.mem_cons_self⟩
    have others := ih (by simp) fun b later => names b (List.mem_cons_of_mem a later)
    exact List.forall_mem_cons.mpr ⟨marked whole comma, others⟩

/-- Every word of an argument list ends in a mark. -/
theorem marked_argumentWords (s : List Char) (ps : List (List Char)) :
    ∀ w ∈ argumentWords s ps, w.getLast? = some ',' ∨ w.getLast? = some ')' := by
  fun_induction argumentWords s ps with
  | case1 s => simp
  | case2 s p => simp
  | case3 s p q rest ih => simpa using ih

end Text

namespace Utility

open Text Source

theorem isToken_of_looksLikeVariable (named : looksLikeVariable s = true) : IsToken s := by
  cases s with
  | nil => simp [looksLikeVariable] at named
  | cons c rest =>
    simp only [looksLikeVariable, Bool.and_eq_true, List.all_eq_true] at named
    obtain ⟨⟨small, plain⟩, _⟩ := named
    have lower : c.isLower = true := small
    refine List.forall_mem_cons.mpr ⟨?_, fun d later => ?_⟩
    · change (c.isUpper || c.isLower || c.isDigit || c == '-') = true
      simp [lower]
    · have letter : d.isAlphanum = true := plain d later
      simp [isTokenChar, letter]

theorem isToken_parameters (member : p ∈ parameters code limit) : IsToken p.toList := by
  have listed := List.mem_of_mem_take member
  simp only [List.mem_eraseDups, List.mem_map, List.mem_filter] at listed
  obtain ⟨run, ⟨_, named⟩, rfl⟩ := listed
  simpa using isToken_of_looksLikeVariable named

theorem mem_of_lookup {table : List (String × String)} (found : table.lookup key = some value) :
    (key, value) ∈ table := by
  obtain ⟨before, after, split, _⟩ := List.lookup_eq_some_iff.mp found
  simp [split]

theorem lookup_getD_mem (table : List (String × String)) (key other : String) :
    (table.lookup key).getD other ∈ other :: table.map (·.2) := by
  cases found : table.lookup key with
  | none => simp
  | some value =>
    exact List.mem_cons_of_mem other (List.mem_map.mpr ⟨_, mem_of_lookup found, rfl⟩)

theorem isToken_functionNameOf (kind : String) (index : Int) :
    IsToken (functionNameOf kind index).toList := by
  have names : ∀ name ∈ "utilityFunction" :: functionNames.map (·.2),
      name.toList.all isTokenChar = true := by decide
  rw [functionNameOf, String.toList_append]
  have base := List.all_eq_true.mp (names _ (lookup_getD_mem functionNames kind "utilityFunction"))
  exact IsToken.append base (isToken_text _)

/-! ## The comment -/

theorem no_closingMark_number (i : Int) : ¬ ['*', '/'] <:+: (Value.int i).display.toList := by
  intro mark
  have star : '*' ∈ (Numeral.text i).toList := mark.subset (by simp)
  exact (isToken_text i).absent (by decide) star

theorem enclosed_placeText {file line : Value} (left : ¬ ['*', '/'] <:+: file.display.toList)
    (right : ¬ ['*', '/'] <:+: line.display.toList) : Enclosed (placeText file line).toList := by
  have number : Enclosed ([':'] ++ (line.display.toList ++ ['\n'])) :=
    enclosed_newline.around (by simp) (by simp [pair_infix_cons]) (by simp) right
  have start : ¬ ['*', '/'] <:+: " *   - ".toList := by simp [pair_infix_cons]
  simpa [placeText] using number.around (by simp) start (by simp) left

/-- The comment in front of a stub gives no words. -/
theorem liveWords_comment {suggestion : Value} {placeLines : List String}
    (unclosed : ¬ ['*', '/'] <:+: suggestion.display.toList)
    (lines : ∀ l ∈ placeLines, Enclosed l.toList) (t : List Char) :
    liveWords ((comment suggestion placeLines).toList ++ t) = liveWords t := by
  have fixed : Enclosed
      "\n * Auto-generated from duplicate code analysis\n * Found in:\n".toList :=
    ⟨rfl, by simp [pair_infix_cons]⟩
  have start : ¬ ['*', '/'] <:+: "*\n * ".toList := by simp [pair_infix_cons]
  have told := fixed.around (by simp) start (by simp) unclosed
  have places : ∀ l ∈ placeLines.map String.toList, Enclosed l := List.forall_mem_map.mpr lines
  have whole := liveWords_block_comment (told.flatten places) t
  simpa [comment, toList_concat] using whole

/-! ## The function -/

/-- The words in front of the name of a function. -/
def keywords (isAsync : Bool) : List (List Char) :=
  (if isAsync then ["export", "async", "function"] else ["export", "function"]).map String.toList

def signatureWords (isAsync : Bool) (name : String) (ps : List String) : List (List Char) :=
  keywords isAsync ++ argumentWords (name.toList ++ ['(']) (ps.map String.toList) ++ [['\x7b']]

/-- A signature is its words on one line. -/
theorem unwords_signatureWords (isAsync : Bool) (name : String) (ps : List String) :
    unwords (signatureWords isAsync name ps) =
      ("export " ++ (if isAsync then "async function" else "function") ++ " " ++ name ++ "(" ++
        ", ".intercalate ps ++ ") \x7b").toList := by
  have front : unwords (keywords isAsync) ++ [' '] =
      ("export " ++ (if isAsync then "async function" else "function") ++ " ").toList := by
    cases isAsync <;> decide
  have filled : keywords isAsync ≠ [] := by cases isAsync <;> simp [keywords]
  have arguments := argumentWords_ne_nil (name.toList ++ ['(']) (ps.map String.toList)
  rw [signatureWords, unwords_append (List.append_ne_nil_of_left_ne_nil filled _) (by simp),
    unwords_append filled arguments, unwords_argumentWords]
  simp only [String.toList_append] at front ⊢
  rw [← front]
  simp [unwords]

variable {name : String} {ps : List String}

theorem mem_signatureWords (isAsync : Bool) (named : IsToken name.toList)
    (params : ∀ p ∈ ps, IsToken p.toList) :
    ∀ w ∈ signatureWords isAsync name ps, ∀ c ∈ w, isBlank c = false ∧ c ≠ '/' := by
  have token {s : List Char} (h : IsToken s) : ∀ c ∈ s, isBlank c = false ∧ c ≠ '/' := by
    intro c member
    refine ⟨isBlank_of_isTokenChar (h c member), ?_⟩
    rintro rfl
    exact h.absent (by decide) member
  have front : ∀ w ∈ keywords isAsync, w.all (fun c => !isBlank c && c != '/') = true := by
    cases isAsync <;> decide
  have arguments := forall_mem_argumentWords (s := name.toList ++ ['('])
    (List.forall_mem_append.mpr ⟨token named, List.forall_mem_singleton.mpr (by decide)⟩)
    (List.forall_mem_map.mpr fun p member => token (params p member)) (by decide) (by decide)
  simp only [signatureWords, List.forall_mem_append, List.forall_mem_singleton]
  refine ⟨⟨?_, arguments⟩, by decide⟩
  intro w member c inside
  simpa using List.all_eq_true.mp (front w member) c inside

theorem isWord_signatureWords (isAsync : Bool) (named : IsToken name.toList)
    (params : ∀ p ∈ ps, IsToken p.toList) : ∀ w ∈ signatureWords isAsync name ps, IsWord w := by
  intro w member
  refine ⟨?_, fun c inside => (mem_signatureWords isAsync named params w member c inside).1⟩
  rintro rfl
  simp only [signatureWords, List.mem_append] at member
  rcases member with (keyword | argument) | brace
  · cases isAsync <;> simp [keywords] at keyword
  · simpa using marked_argumentWords _ _ _ argument
  · simp at brace

theorem liveWords_signature (isAsync : Bool) (named : IsToken name.toList)
    (params : ∀ p ∈ ps, IsToken p.toList) (t : List Char) :
    liveWords ((signature isAsync name ps).toList ++ t) =
      signatureWords isAsync name ps ++ liveWords t := by
  have plain : '/' ∉ unwords (signatureWords isAsync name ps) := by
    intro member
    rcases mem_intercalate member with gap | ⟨w, inside, slash⟩
    · simp at gap
    · exact (mem_signatureWords isAsync named params w inside _ slash).2 rfl
  have line := liveWords_line plain t
  rw [words_unwords (isWord_signatureWords isAsync named params), unwords_signatureWords] at line
  simpa [signature] using line

theorem liveWords_code_lines {ls : List (List Char)} (flat : ∀ l ∈ ls, '\n' ∉ l) (t : List Char) :
    liveWords ((concat (ls.map fun line => "  // " ++ .ofList line ++ "\n")).toList ++ t) =
      liveWords t := by
  induction ls with
  | nil => rfl
  | cons l ls ih =>
    have parts := List.forall_mem_cons.mp flat
    have first := liveWords_comment_line (a := [' ', ' ']) (l := ' ' :: l)
      (by simp [Blanks]; decide) (by simp [parts.1])
      ((concat (ls.map fun line => "  // " ++ .ofList line ++ "\n")).toList ++ t)
    rw [ih parts.2] at first
    simpa [toList_concat] using first

def statementWords : List (List Char) :=
  ["throw", "new", "Error('Not", "implemented", "-", "refactor", "needed');"].map String.toList

theorem liveWords_body (code : String) (t : List Char) :
    liveWords ((body code).toList ++ t) = statementWords ++ ['\x7d'] :: liveWords t := by
  have indent : Blanks [' ', ' '] := by simp [Blanks]; decide
  have flat := newline_not_mem_lines code.toList
  have todo (s : List Char) :
      liveWords ("  // TODO: Refactor this code\n".toList ++ s) = liveWords s :=
    liveWords_comment_line indent (l := " TODO: Refactor this code".toList) (by decide) s
  have original (s : List Char) :
      liveWords ("  // Original code:\n".toList ++ s) = liveWords s :=
    liveWords_comment_line indent (l := " Original code:".toList) (by decide) s
  have statement (s : List Char) :
      liveWords ("\n  throw new Error('Not implemented - refactor needed');\n".toList ++ s) =
        statementWords ++ liveWords s :=
    (liveWords_blank_line _).trans <| liveWords_line
      (a := "  throw new Error('Not implemented - refactor needed');".toList) (by decide) s
  have brace (s : List Char) : liveWords ("\x7d\n\n".toList ++ s) = ['\x7d'] :: liveWords s :=
    (liveWords_line (a := ['\x7d']) (by decide) ('\n' :: s)).trans (by rw [liveWords_blank_line]; rfl)
  -- `rw` would derive an equation for `body` first, which is not found in time for such long texts
  unfold body
  simp only [String.toList_append, List.append_assoc]
  rw [todo, original, liveWords_code_lines flat, statement, brace]

/-! ## The whole stub -/

namespace Finding

/-- Nothing that a stub tells of a finding in a comment ends the comment. The number of a line cannot
do so. -/
structure Harmless (f : Finding) : Prop where
  suggestion : ¬ ['*', '/'] <:+: f.suggestion.display.toList
  file : ∀ place ∈ f.places, ¬ ['*', '/'] <:+: place.file.display.toList
  line : ∀ place ∈ f.places,
    (∃ i, place.line = .int i) ∨ ¬ ['*', '/'] <:+: place.line.display.toList

def stubWords (f : Finding) (index : Int) : List (List Char) :=
  signatureWords f.isAsync (functionNameOf f.type index) f.parameters ++ statementWords ++ [['\x7d']]

theorem Harmless.enclosed {f : Finding} (harmless : f.Harmless) :
    ∀ l ∈ f.places.map fun place => placeText place.file place.line, Enclosed l.toList := by
  refine List.forall_mem_map.mpr fun place member => ?_
  refine enclosed_placeText (harmless.file place member) ?_
  rcases harmless.line place member with ⟨i, number⟩ | unclosed
  · rw [number]
    exact no_closingMark_number i
  · exact unclosed

theorem liveWords_stub {f : Finding} (harmless : f.Harmless) (index : Int) (t : List Char) :
    liveWords ((f.stub index).code.toList ++ t) = f.stubWords index ++ liveWords t := by
  have named := isToken_functionNameOf f.type index
  have params : ∀ p ∈ f.parameters, IsToken p.toList := fun p => isToken_parameters
  simp only [stub, String.toList_append, List.append_assoc]
  rw [liveWords_comment harmless.suggestion harmless.enclosed, liveWords_signature _ named params,
    liveWords_body]
  simp [stubWords]

theorem unwords_stubWords (f : Finding) (index : Int) :
    unwords (f.stubWords index) =
      ("export " ++ (if f.isAsync then "async function" else "function") ++ " " ++
        functionNameOf f.type index ++ "(" ++ ", ".intercalate f.parameters ++
        ") \x7b throw new Error('Not implemented - refactor needed'); \x7d").toList := by
  have statement : unwords (statementWords ++ [['\x7d']]) =
      "throw new Error('Not implemented - refactor needed'); \x7d".toList := by decide
  rw [stubWords, List.append_assoc, unwords_append (by simp [signatureWords])
    (by simp [statementWords]), statement, unwords_signatureWords]
  simp

end Finding

/-- What is left of a stub without its comments is the function alone, whatever the code holds. An
entry with a type and a code has a stub with every number that can be written, and its name and its
parameters are those of the function. -/
theorem normalize_stub (records : Records entry f) (harmless : f.Harmless) (index : Int) :
    (Numeral.isWritable (index + 1) = true → ∃ s, Stub.ofEntry entry index = .ok s ∧
      Source.normalize s.code =
        "export " ++ (if "async ".toList <:+: f.code.toList then "async function" else "function") ++
          " " ++ s.functionName ++ "(" ++ ", ".intercalate s.parameters ++
          ") \x7b throw new Error('Not implemented - refactor needed'); \x7d") ∧
    (Numeral.isWritable (index + 1) = false →
      Stub.ofEntry entry index = .error (.write .numberTooLong)) := by
  have stub := records.ofEntry_eq index
  constructor
  · intro written
    rw [if_pos written] at stub
    refine ⟨f.stub index, stub, ?_⟩
    have words := Finding.liveWords_stub harmless index []
    rw [List.append_nil, liveWords_nil, List.append_nil] at words
    rw [Source.normalize, normalForm_eq_unwords, words, Finding.unwords_stubWords, String.ofList_toList]
    simp only [Finding.isAsync, Trait.mentions_iff]
    rfl
  · intro unwritten
    rw [stub, unwritten]
    rfl

/-- A finding whose code closes comments that it never opened. -/
def unruly : Finding where
  type := "api-call"
  code := "*/ \x7d // x\nconst y = async () => \x7b /*"
  suggestion := .text "see // or /*"
  places := [⟨.text "a//b.ts", .int 3⟩]

def unrulyEntry : Value := .record [
  ("type", .text "api-call"),
  ("code", .text "*/ \x7d // x\nconst y = async () => \x7b /*"),
  ("suggestion", .text "see // or /*"),
  ("locations", .list [.record [("file", .text "a//b.ts"), ("startLine", .int 3)]])]

theorem normalize_unruly_stub :
    ∃ s, Stub.ofEntry unrulyEntry 0 = .ok s ∧ Source.normalize s.code =
      "export async function requestApi1(x, y, async) \x7b " ++
        "throw new Error('Not implemented - refactor needed'); \x7d" := by
  have records : Records unrulyEntry unruly :=
    ⟨rfl, rfl, rfl, _, _, rfl, rfl, .cons ⟨rfl, rfl⟩ .nil⟩
  have harmless : unruly.Harmless := by
    refine ⟨by decide, by decide, ?_⟩
    intro place member
    obtain rfl := List.mem_singleton.mp member
    exact .inl ⟨3, rfl⟩
  have written : Numeral.isWritable (0 + 1) = true := Numeral.isWritable_of_lt (by decide)
  obtain ⟨s, made, normal⟩ := (normalize_stub records harmless 0).1 written
  have stub := records.ofEntry_eq 0
  rw [if_pos written, made] at stub
  obtain rfl := Except.ok.inj stub
  have isAsync : "async ".toList <:+: unruly.code.toList := by decide
  have params : (unruly.stub 0).parameters = ["x", "y", "async"] := by decide +kernel
  have name : (unruly.stub 0).functionName = "requestApi1" := by decide +kernel
  refine ⟨_, made, normal.trans ?_⟩
  rw [if_pos isAsync, params, name]
  decide

end Utility

end CloneScan
