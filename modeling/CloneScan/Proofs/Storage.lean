import CloneScan.Proofs.Files
import CloneScan.Proofs.Json.RoundTrip
import CloneScan.Proofs.Soundness
import CloneScan.Proofs.Utf8

/-! A stored report is read back as it was. What an artifact is made of survives its JSON text, the text
survives its octets and the reading of line ends, and the octets are found where they were put. -/
namespace CloneScan

open Json (Kept Lossless)

namespace Report

theorem kept_place (b : Block) : Kept (place b) := by
  refine .record _ (by simp) ?_
  simp only [List.forall_mem_cons]
  exact ⟨.text _, .int _, .int _, List.forall_mem_nil _⟩

theorem kept_duplicate (previewLength : Nat) (g : Group) : Kept (duplicate previewLength g) := by
  refine .record _ (by simp) ?_
  simp only [List.forall_mem_cons]
  refine ⟨.text _, .text _, .int _, .int _, .int _, .list _ fun v member => ?_, .text _,
    List.forall_mem_nil _⟩
  obtain ⟨b, _, rfl⟩ := List.mem_map.mp member
  exact kept_place b

theorem kept_summary {r : Report} (lossless : Lossless r.averageLines) : Kept r.summary := by
  refine .record _ (by simp) ?_
  simp only [List.forall_mem_cons]
  exact ⟨.int _, .int _, .float _ lossless, .int _, .int _, List.forall_mem_nil _⟩

/-- Nothing in an artifact is lost when it is written, but perhaps the average. -/
theorem kept_artifact (settings : Settings) {r : Report} (lossless : Lossless r.averageLines) :
    Kept (r.artifact settings) := by
  refine .record _ (by simp) ?_
  simp only [List.forall_mem_cons]
  refine ⟨kept_summary lossless, .list _ fun v member => ?_, .list _ fun v member => ?_,
    .list _ fun v member => ?_, List.forall_mem_nil _⟩
  · obtain ⟨total, _, rfl⟩ := List.mem_map.mp member
    refine .record _ (by simp) ?_
    simp only [List.forall_mem_cons]
    exact ⟨.text _, .int _, .int _, List.forall_mem_nil _⟩
  · obtain ⟨path, _, rfl⟩ := List.mem_map.mp member
    exact .text path
  · obtain ⟨g, _, rfl⟩ := List.mem_map.mp member
    exact kept_duplicate _ g

theorem render_json_eq_ok {settings : Settings} {r : Report} {text : String} :
    r.render .json settings = .ok text ↔
      r.averageFault? = none ∧ (r.artifact settings).writeFault? = none ∧
        text = r.toJson settings := by
  unfold render fault?
  generalize (r.artifact settings).writeFault? = unwritten
  cases r.averageFault? with
  | some f => simp
  | none =>
    cases unwritten with
    | some f => simp
    | none => simp [@eq_comm _ text]

/-- What is told of a report when its artifact is looked at. -/
theorem summaryLines_artifact (settings : Settings) (r : Report) :
    summaryLines (r.artifact settings) = .ok ([
      "Total patterns: " ++ Numeral.text r.totalPatterns,
      "Total duplicated lines: " ++ Numeral.text r.totalLines,
      "Average duplication: " ++ r.averageLines.text ++ " lines"] ++
      if r.truncatedFiles.isEmpty then []
      else ["Partially scanned files: " ++ Numeral.text r.truncatedFiles.length]) := by
  cases truncated : r.truncatedFiles with
  | nil =>
    simp [summaryLines, artifact, summary, Value.fieldD, List.lookup_cons, truncated, Value.isTrue,
      Value.display, Value.literal, bind, Except.bind, pure, Except.pure]
  | cons path rest =>
    simp [summaryLines, artifact, summary, Value.fieldD, List.lookup_cons, truncated, Value.isTrue,
      Value.display, Value.literal, bind, Except.bind, pure, Except.pure, Value.size?, Value.elements?]

end Report

namespace Store

theorem save_eq_none {settings : Settings} {r : Report} {d : Disk} {path : Path}
    (saved : (save settings r d path).2 = none) :
    ∃ beside written, path.extend? temporarySuffix = some beside ∧
      r.render .json settings = .ok (r.toJson settings) ∧
      d.write beside (Text.Utf8.encode (r.toJson settings)) = .ok written ∧
      written.rename beside path = .ok (save settings r d path).1 := by
  unfold save at saved ⊢
  rw [Path.withSuffix?_suffix] at saved ⊢
  cases named : path.extend? temporarySuffix with
  | none => simp [named] at saved
  | some beside =>
    cases rendered : r.render .json settings with
    | error f =>
      cases wrote : d.write beside [] <;> simp [named, rendered, wrote] at saved
    | ok text =>
      obtain ⟨_, _, rfl⟩ := Report.render_json_eq_ok.mp rendered
      cases wrote : d.write beside (Text.Utf8.encode (r.toJson settings)) with
      | error f => simp [named, rendered, wrote] at saved
      | ok written =>
        cases renamed : written.rename beside path with
        | error f => simp [named, rendered, wrote, renamed] at saved
        | ok after => exact ⟨beside, written, rfl, rfl, wrote, by simp [wrote, renamed]⟩

/-- A saved report replaces whatever was at its path, and nothing else. -/
theorem save_replaces {settings : Settings} {r : Report} {d : Disk} {path : Path}
    (saved : (save settings r d path).2 = none) :
    ∃ above, d.Replaced (save settings r d path).1 path (Text.Utf8.encode (r.toJson settings))
      (above ++ [path.name]) (above ++ [path.name ++ temporarySuffix]) := by
  obtain ⟨beside, written, named, _, wrote, renamed⟩ := save_eq_none saved
  obtain ⟨anchor, siblings, name⟩ := Path.extend?_eq_some named
  rw [← name]
  exact Disk.replaced_of_rename anchor siblings wrote renamed

/-- What is saved is loaded, wherever it is saved and whatever was there. -/
theorem load_save {settings : Settings} {r : Report} {d : Disk} {path : Path}
    (lossless : Lossless r.averageLines) (saved : (save settings r d path).2 = none) :
    load (save settings r d path).1 path = .ok (r.artifact settings) ∧
    Report.summaryLines (r.artifact settings) = .ok ([
      "Total patterns: " ++ Numeral.text r.totalPatterns,
      "Total duplicated lines: " ++ Numeral.text r.totalLines,
      "Average duplication: " ++ r.averageLines.text ++ " lines"] ++
      if r.truncatedFiles.isEmpty then []
      else ["Partially scanned files: " ++ Numeral.text r.truncatedFiles.length]) := by
  refine ⟨?_, Report.summaryLines_artifact settings r⟩
  obtain ⟨above, replaced⟩ := save_replaces saved
  obtain ⟨isFile, content⟩ := replaced.read
  obtain ⟨_, _, _, rendered, _⟩ := save_eq_none saved
  obtain ⟨_, writable, _⟩ := Report.render_json_eq_ok.mp rendered
  have kept := Report.kept_artifact settings lossless
  have text : readText (save settings r d path).1 path = .ok (r.toJson settings) := by
    have flat := Text.unifyNewlines_eq_self (Json.carriageReturn_not_mem_render kept writable)
    have whole : String.ofList (Text.unifyNewlines (r.toJson settings).toList) =
        r.toJson settings := by
      rw [Report.toJson, flat, String.ofList_toList]
    simp [readText, content, Text.Utf8.decode_encode, whole, Except.mapError, bind, Except.bind,
      pure, Except.pure]
  have value : Json.read (r.toJson settings) = .ok (r.artifact settings) :=
    Json.read_render kept writable
  simp [load, isFile, text, value, duplicates?_artifact, Except.mapError, bind, Except.bind, pure,
    Except.pure]

/-- A report on texts with quotes, backslashes, control characters, line ends of all kinds and
characters beyond sixteen bits, at lines below zero. -/
def awkward : Report :=
  let b : Block := ⟨"a\"b\\c.ts", -3, 5, "\x01\t\r\n\u2028𝕏", 7, "f"⟩
  { rootPath := "."
    groups := [⟨"f", b, [{ b with file := "\x7f" }], ⟨"\x08\x0c", "\r"⟩⟩]
    categories := [⟨"\x08\x0c", 1, 18⟩]
    truncatedFiles := ["\u0085", ""]
    minLines := 3 }

def occupied : Disk := { top := .directory [("r.json", .file [0xFF])] }

/-- The awkward report takes the place of another file and is loaded from there. -/
theorem awkward_load_save :
    Lossless awkward.averageLines ∧
    (save .default awkward occupied ⟨.relative, ["r.json"]⟩).2 = none ∧
    load (save .default awkward occupied ⟨.relative, ["r.json"]⟩).1 ⟨.relative, ["r.json"]⟩ =
      .ok (awkward.artifact .default) ∧
    Report.summaryLines (awkward.artifact .default) = .ok [
      "Total patterns: 1", "Total duplicated lines: 18", "Average duplication: 18.0 lines",
      "Partially scanned files: 2"] := by
  have written : awkward.averageLines.chars Json.floatNotation = "18.0".toList := by decide +kernel
  have lossless : Lossless awkward.averageLines := by
    have value : awkward.averageLines = .ofDecimal false 180 (-1) := by decide +kernel
    rw [Lossless, written, value]
    rfl
  have saved : (save .default awkward occupied ⟨.relative, ["r.json"]⟩).2 = none := by
    decide +kernel
  obtain ⟨loaded, lines⟩ := load_save lossless saved
  exact ⟨lossless, saved, loaded, lines.trans (congrArg Except.ok (by decide +kernel))⟩

end Store

end CloneScan
