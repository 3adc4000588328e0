import CloneScan.Proofs.Configuration
import CloneScan.Proofs.Results

/-! What the settings file of a directory comes to. Where no table is to be read from it, because the
file is missing, breaks the rules of the format or says nothing about settings, there is an empty
one. That does not hold where the search cannot ask for the file, for octets that are no text, for what
goes beyond the limits of the reader, and for an entry under the name of the table that is none:
`load_eq_record_iff` tells exactly when a table comes out, and that it is then the right one. -/
namespace CloneScan.SettingsFile

/-- The fields that a settings file is to give: those of its table, and none if it has no table that
could be read. -/
def promised (content : List UInt8) : List (String × Value) :=
  match Text.Utf8.decode content with
  | .error _ => []
  | .ok text =>
    match Toml.read text with
    | .error _ => []
    | .ok document =>
      match document.lookup tableName with
      | some (.record fields) => fields
      | _ => []

/-- A settings file that does no harm: it is a text, and either no valid document or one whose entry
under the name of the table is a table, if there is one. -/
def Harmless (content : List UInt8) : Prop :=
  ∃ text, Text.Utf8.decode content = .ok text ∧
    (Toml.read text = .error .invalid ∨ ∃ document, Toml.read text = .ok document ∧
      ∀ entry, document.lookup tableName = some entry → ∃ fields, entry = .record fields)

section Content

variable {place : Location} {content : List UInt8} {text : String} {document : Toml.Fields}
  {fields : List (String × Value)}

theorem ofContent_of_octets {f : Text.Utf8.Fault} (undecoded : Text.Utf8.decode content = .error f) :
    ofContent place content = .error (.encoding f) := by
  rw [ofContent, undecoded]
  rfl

theorem ofContent_of_problem {problem : Toml.Problem}
    (decoded : Text.Utf8.decode content = .ok text) (found : Toml.read text = .error problem) :
    ofContent place content =
      if problem = .invalid then .ok (.unreadable place) else .error (.document problem) := by
  rw [ofContent, decoded]
  cases problem <;> simp only [Except.mapError, ok_bind, found] <;> rfl

theorem ofContent_of_document (decoded : Text.Utf8.decode content = .ok text)
    (found : Toml.read text = .ok document) :
    ofContent place content =
      .ok (.loaded place ((document.lookup tableName).getD (.record []))) := by
  rw [ofContent, decoded]
  simp only [Except.mapError, ok_bind, found]
  rfl

/-- A file gives a table if it does no harm, and then it gives the one that it is to give. -/
theorem ofContent_eq_record_iff :
    (∃ finding, ofContent place content = .ok finding ∧ finding.table = .record fields) ↔
      Harmless content ∧ fields = promised content := by
  cases decoded : Text.Utf8.decode content with
  | error f => simp [ofContent_of_octets decoded, Harmless, decoded]
  | ok text =>
    cases found : Toml.read text with
    | error problem =>
      by_cases broken : problem = .invalid
      · simp [ofContent_of_problem decoded found, Harmless, promised, decoded, found, broken,
          Finding.table, eq_comm]
      · simp [ofContent_of_problem decoded found, Harmless, decoded, found, broken]
    | ok document =>
      simp only [ofContent_of_document decoded found, Harmless, promised, decoded, found,
        Except.ok.injEq, exists_eq_left', Finding.table]
      cases entry : document.lookup tableName with
      | none => simp [eq_comm]
      | some v => cases v <;> simp [eq_comm]

end Content

/-! ## The file that counts -/

variable {d : Disk} {p : Path}

/-- The content of the settings file that counts for a directory. -/
def nearestContent? (d : Disk) (p : Path) : Option (List UInt8) :=
  (nearest d.top (d.resolve p)).bind fun place =>
    match d.top.at? place with
    | some (.file content) => some content
    | _ => none

theorem file_of_nearest {top : Node} {place found : Location}
    (counts : nearest top place = some found) : ∃ content, top.at? found = some (.file content) := by
  have file := List.find?_some (p := fun candidate => (top.at? candidate).any Node.isFile) counts
  obtain ⟨n, stands, isFile⟩ := (Option.any_eq_true ..).mp file
  cases n with
  | file content => exact ⟨content, stands⟩
  | directory entries => cases isFile

/-- Where it can be asked for, the file that counts is read. -/
theorem load_eq (askable : Askable d p) :
    load d p =
      match nearest d.top (d.resolve p) with
      | none => .ok .nothing
      | some found => ofPlace d.top found := by
  rw [load, search_eq_ok_iff.mpr ⟨askable, rfl⟩]
  rfl

theorem load_of_not_askable (unaskable : ¬ Askable d p) : ∃ f, load d p = .error f := by
  obtain ⟨f, fault⟩ := search_eq_error_iff.mpr unaskable
  exact ⟨.file f, by rw [load, fault]; rfl⟩

/-- Loading the settings of a directory gives a table exactly if the file system can be asked and the
file that counts does no harm. The table is then the one that this file is to give, and empty if there
is no such file. In all other cases there is a fault, or something that is no table. -/
theorem load_eq_record_iff (d : Disk) (p : Path) (fields : List (String × Value)) :
    (∃ finding, load d p = .ok finding ∧ finding.table = .record fields) ↔
      Askable d p ∧ (∀ content, nearestContent? d p = some content → Harmless content) ∧
        fields = ((nearestContent? d p).map promised).getD [] := by
  by_cases askable : Askable d p
  · rw [load_eq askable, nearestContent?]
    cases counts : nearest d.top (d.resolve p) with
    | none => simp [askable, Finding.table, eq_comm]
    | some found =>
      obtain ⟨content, stands⟩ := file_of_nearest counts
      simp only [ofPlace, stands, ofContent_eq_record_iff, askable, true_and, Option.bind_some,
        Option.some.injEq, forall_eq', Option.map_some, Option.getD_some]
  · obtain ⟨f, fault⟩ := load_of_not_askable askable
    simp [askable, fault]

/-- A directory whose settings file is one octet that stands in no text. -/
def strayOctet : Disk := { top := .directory [(".cdfrc", .file [0xff])] }

/-- A directory whose settings file has a number where the table is expected. -/
def numberForTable : Disk :=
  { top := .directory [(".cdfrc", .file (Text.Utf8.encode "cdf = 5"))] }

/-- The stray octet is a fault, where an empty table was promised; of the number no table is made. -/
theorem stray_octet_fault :
    (∃ f, load strayOctet (.ofText ".") = .error (.encoding f)) ∧
    nearestContent? strayOctet (.ofText ".") = some [0xff] ∧ promised [0xff] = [] ∧
    load numberForTable (.ofText ".") = .ok (.loaded [".cdfrc"] (.int 5)) := by
  refine ⟨⟨_, rfl⟩, rfl, rfl, ?_⟩
  rfl

end CloneScan.SettingsFile
