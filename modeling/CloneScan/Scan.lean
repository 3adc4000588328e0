import CloneScan.Block
import CloneScan.Settings
import CloneScan.Source.Fingerprint
import CloneScan.Source.Line
import CloneScan.Text.Lines

/-! Scanning one file: windows of each size slide over its lines, the ones that pass three
filters become blocks, and the scan ends early once a file has given enough of them. -/
namespace CloneScan

structure Scan where
  file : String
  blocks : List Block := []
  /-- Windows were left unseen because the limit of blocks was reached. -/
  truncated : Bool := false
  /-- Why the file could not be read. -/
  readError : Option String := none
  deriving DecidableEq, Repr

namespace Scan

/-- A window: its size and the number of lines before it. -/
structure Position where
  size : Nat
  start : Nat
  deriving DecidableEq, Repr

/-- Window positions size by size and from the top down. The window that ends on the last line
is not among them. -/
def positions (sizes : List Positive) (lineCount : Nat) : List Position :=
  sizes.flatMap fun size => (List.range (lineCount - size.val)).map fun start => ⟨size.val, start⟩

def Position.window (p : Position) (lines : List (List Char)) : List (List Char) :=
  (lines.drop p.start).take p.size

def leastLength : Nat := 100

def wordCount (s : List Char) : Nat := (Text.words s).length

/-- Enough text, enough words, and at least half of the lines code. -/
def accepts (minTokens : Nat) (window : List (List Char)) : Bool :=
  let trimmed := Text.trim (Text.unlines window)
  leastLength ≤ trimmed.length && minTokens ≤ wordCount trimmed &&
    window.length ≤ 2 * (window.filter Source.isCodeLine).length

def block (file : String) (start : Nat) (window : List (List Char)) : Block :=
  let content := Text.unlines window
  { file
    startLine := start + 1
    endLine := start + window.length
    content := .ofList content
    tokens := wordCount (Text.trim content)
    fingerprint := Source.fingerprint (.ofList (Text.trim content)) }

/-- Takes the accepted positions until `room` is used up. A position that is left when there is
no more room makes the scan truncated, accepted or not. -/
def collect (accepted : Position → Bool) (build : Position → Block) :
    Nat → List Position → List Block × Bool
  | _, [] => ([], false)
  | 0, _ :: _ => ([], true)
  | room + 1, p :: rest =>
    if accepted p then
      let (blocks, truncated) := collect accepted build room rest
      (build p :: blocks, truncated)
    else collect accepted build (room + 1) rest

def ofText (settings : Settings) (file : String) (text : List Char) : Scan :=
  let lines := Text.lines text
  let (blocks, truncated) :=
    collect (fun p => accepts settings.minTokens.val (p.window lines))
      (fun p => block file p.start (p.window lines))
      settings.maxBlocksPerFile.val (positions settings.blockSizes lines.length)
  { file, blocks, truncated }

def unreadable (file reason : String) : Scan := { file, readError := some reason }

end CloneScan.Scan
