import CloneScan.Proofs.Json.Number
import CloneScan.Proofs.Storage

/-! Loading from the octets of a file. Whatever has happened to a disk since a report was saved, the
report is read back as long as its octets are still found at its path. -/
namespace CloneScan

open Json (Kept)

namespace Store

/-- A file that holds the text of an artifact is loaded as that artifact. -/
theorem load_of_content {settings : Settings} {r : Report} {d : Disk} {path : Path}
    (isFile : d.isFile path = .ok true)
    (content : d.read path = .ok (Text.Utf8.encode (r.toJson settings)))
    (writable : (r.artifact settings).writeFault? = none) :
    load d path = .ok (r.artifact settings) := by
  have kept : Kept (r.artifact settings) := Report.kept_artifact settings r.averageLines_lossless
  have flat : Text.unifyNewlines (r.toJson settings).toList = (r.toJson settings).toList := by
    apply Text.unifyNewlines_eq_self
    exact Json.carriageReturn_not_mem_render kept writable
  have text : readText d path = .ok (r.toJson settings) := by
    simp only [readText, content, Except.mapError, bind, Except.bind, Text.Utf8.decode_encode, flat,
      String.ofList_toList, pure, Except.pure]
  have value : Json.read (r.toJson settings) = .ok (r.artifact settings) :=
    Json.read_render kept writable
  simp only [load, isFile, text, value, duplicates?_artifact, Except.mapError, bind, Except.bind,
    Bool.not_true, Bool.false_eq_true, if_false, pure, Except.pure]

theorem writable_of_saved {settings : Settings} {r : Report} {d : Disk} {path : Path}
    (saved : (save settings r d path).2 = none) : (r.artifact settings).writeFault? = none := by
  obtain ⟨_, _, _, rendered, _⟩ := save_eq_none saved
  exact (Report.render_json_eq_ok.mp rendered).2.1

theorem load_saved {settings : Settings} {r : Report} {d : Disk} {path : Path}
    (saved : (save settings r d path).2 = none) :
    load (save settings r d path).1 path = .ok (r.artifact settings) := by
  obtain ⟨_, replaced⟩ := save_replaces saved
  obtain ⟨isFile, content⟩ := replaced.read
  exact load_of_content isFile content (writable_of_saved saved)

end Store

end CloneScan
