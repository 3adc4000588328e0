import CloneScan.Proofs.Independence
import CloneScan.Proofs.Utf8

/-! How the lines of a file end is not seen. Whichever mark ends the lines of each file, reading brings
the same text back, so trees that differ in the ends of lines only come to one artifact. -/
namespace CloneScan

inductive LineEnd where
  | newline
  | returnNewline
  | carriageReturn
  deriving DecidableEq, Repr

namespace LineEnd

def text : LineEnd → List Char
  | newline => ['\n']
  | returnNewline => ['\r', '\n']
  | carriageReturn => ['\r']

def write (mark : LineEnd) (s : List Char) : List Char :=
  s.flatMap fun c => if c = '\n' then mark.text else [c]

theorem write_cons_newline (mark : LineEnd) (s : List Char) :
    mark.write ('\n' :: s) = mark.text ++ mark.write s := rfl

theorem write_cons_other {c : Char} (other : c ≠ '\n') (mark : LineEnd) (s : List Char) :
    mark.write (c :: s) = c :: mark.write s := by
  simp [write, other]

theorem write_newline (s : List Char) : newline.write s = s := by
  induction s with
  | nil => rfl
  | cons c s ih =>
    by_cases same : c = '\n'
    · subst c
      rw [write_cons_newline, ih]
      rfl
    · rw [write_cons_other same, ih]

/-- Where lines end in carriage returns no newline is left. -/
theorem newline_not_mem_write (s : List Char) : '\n' ∉ carriageReturn.write s := by
  intro member
  obtain ⟨c, _, inside⟩ := List.mem_flatMap.mp member
  by_cases same : c = '\n'
  · simp [same, text] at inside
  · simp only [if_neg same, List.mem_singleton] at inside
    exact same inside.symm

end LineEnd

namespace Text

theorem unifyNewlines_cons {c : Char} (plain : c ≠ '\r') (s : List Char) :
    unifyNewlines (c :: s) = c :: unifyNewlines s := by
  rw [unifyNewlines]
  · exact fun _ same => absurd same plain
  · exact plain

theorem unifyNewlines_return {s : List Char} (alone : '\n' ∉ s) :
    unifyNewlines ('\r' :: s) = '\n' :: unifyNewlines s := by
  rw [unifyNewlines]
  rintro rest rfl
  exact alone List.mem_cons_self

/-- Reading forgets how the lines of a text without carriage returns were ended. -/
theorem unifyNewlines_write (mark : LineEnd) {s : List Char} (plain : '\r' ∉ s) :
    unifyNewlines (mark.write s) = s := by
  induction s with
  | nil => rfl
  | cons c s ih =>
    rw [List.mem_cons, not_or] at plain
    have rest := ih plain.2
    by_cases same : c = '\n'
    · subst c
      rw [LineEnd.write_cons_newline]
      cases mark with
      | newline => exact (unifyNewlines_cons (by decide) _).trans (congrArg _ rest)
      | returnNewline => exact congrArg ('\n' :: ·) rest
      | carriageReturn =>
        exact (unifyNewlines_return (LineEnd.newline_not_mem_write s)).trans (congrArg _ rest)
    · rw [LineEnd.write_cons_other same, unifyNewlines_cons (Ne.symm plain.1), rest]

end Text

/-- A file that is text without carriage returns, and the same text with one mark at the ends of all
its lines. -/
def Relined (content relined : List UInt8) : Prop :=
  ∃ text mark, '\r' ∉ text.toList ∧ content = Text.Utf8.encode text ∧
    relined = Text.Utf8.encode (.ofList (LineEnd.write mark text.toList))

/-- A file whose lines end in newlines already stays as it is. -/
theorem Relined.self {text : String} (plain : '\r' ∉ text.toList) :
    Relined (Text.Utf8.encode text) (Text.Utf8.encode text) := by
  refine ⟨text, .newline, plain, rfl, ?_⟩
  rw [LineEnd.write_newline, String.ofList_toList]

theorem Scan.ofSource_relined (settings : Settings) (place : Location) {content relined : List UInt8}
    (marked : Relined content relined) :
    ofSource settings ⟨place, content⟩ = ofSource settings ⟨place, relined⟩ := by
  obtain ⟨text, mark, plain, rfl, rfl⟩ := marked
  simp only [ofSource, Text.Utf8.decode_encode, String.toList_ofList]
  rw [Text.unifyNewlines_write mark plain, Text.unifyNewlines_eq_self plain]

/-- Trees whose files differ in nothing but the marks at the ends of their lines, each file in one
mark of its own, come to one artifact. -/
theorem line_ends_forgotten {settings : Settings} {d e : Disk} {p q : Path} {m n : Node}
    (left : d.Rooted p m) (right : e.Rooted q n) (relined : Node.FilesRelated Relined m n)
    (shown other : String) : Analysis.SameArtifact settings d e p q shown other :=
  Analysis.sameArtifact_of_index left
    (Index.ofTree_congr left right relined fun place _ _ => Scan.ofSource_relined settings place)
    shown other

def LineEnd.octets (mark : LineEnd) (lines : List (List Char)) : List UInt8 :=
  Text.Utf8.encode (.ofList (mark.write (Text.unlines lines)))

theorem relined_ofLines (place : Location) (mark : LineEnd) {lines : List (List Char)}
    (plain : ∀ l ∈ lines, ∀ c ∈ l, c ≠ '\n' ∧ c ≠ '\r') :
    Relined (Node.Source.ofLines place lines).content (mark.octets lines) := by
  refine ⟨.ofList (Text.unlines lines), mark, ?_, rfl, ?_⟩
  · rw [String.toList_ofList]
    exact Text.return_not_mem_unlines plain
  · rw [String.toList_ofList]
    rfl

def Disk.markedCopies (first second : LineEnd) : Disk where
  top := .directory [
    ("a.ts", .file (first.octets ((Scan.Spelling.plain.ends 50).file 5))),
    ("." ++ "a.ts", .file (second.octets ((Scan.Spelling.plain.ends 50).file 5)))]

theorem Disk.markedCopies_rooted (first second : LineEnd) :
    (markedCopies first second).Rooted Path.here (markedCopies first second).top := by
  refine ⟨node?_here (markedCopies first second) rfl, rfl, ?_⟩
  rw [markedCopies, Node.WellNamed]
  exact ⟨by simp, copies_isName, trivial, dotted_isName copies_isName, trivial, trivial⟩

theorem Disk.copies_relined (first second : LineEnd) :
    Node.FilesRelated Relined (copies 5 5).top (markedCopies first second).top := by
  have plain := (Scan.Spelling.plain.ends 50).plain_file 5
  refine Node.filesRelated_directory (.cons ⟨rfl, ?_⟩ (.cons ⟨rfl, ?_⟩ .nil))
  · exact Node.filesRelated_file (relined_ofLines _ first plain)
  · exact Node.filesRelated_file (relined_ofLines _ second plain)

/-- Two copies, and the same two of which one ends its lines in carriage returns and the other in both
characters. -/
theorem marked_copies_line_ends_forgotten :
    let marked := Disk.markedCopies .carriageReturn .returnNewline
    (Disk.copies 5 5).Rooted Path.here (Disk.copies 5 5).top ∧ marked.Rooted Path.here marked.top ∧
    Node.FilesRelated Relined (Disk.copies 5 5).top marked.top ∧
    Analysis.SameArtifact .default (Disk.copies 5 5) marked Path.here Path.here "." "." ∧
    ∃ a, Analysis.run .default (Disk.copies 5 5) Path.here "." = .ok a ∧ a.report.groups ≠ [] := by
  intro marked
  have left := Disk.copies_rooted 5 5
  have right := Disk.markedCopies_rooted .carriageReturn .returnNewline
  have relined := Disk.copies_relined .carriageReturn .returnNewline
  have artifact := @line_ends_forgotten .default _ _ _ _ _ _ left right relined "." "."
  obtain ⟨a, _, run, _⟩ := artifact.reported Settings.default_searchable
  exact ⟨left, right, relined, artifact, a, run, Analysis.copies_filled run⟩

end CloneScan
