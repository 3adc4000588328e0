import CloneScan.Text.Blank
import CloneScan.Text.Numeral

/-! A block is a window of lines of one file that was found worth comparing. It knows its place,
its text and its fingerprint. -/
namespace CloneScan

structure Block where
  /-- Path below the scanned directory. -/
  file : String
  /-- Number of the first line, counted from one. -/
  startLine : Int
  /-- Number of the last line. -/
  endLine : Int
  content : String
  /-- Words in the text. -/
  tokens : Int
  fingerprint : String
  deriving DecidableEq, Repr

/-- The first `limit` elements; a negative limit counts from the end. -/
def leading (limit : Int) (s : List α) : List α :=
  if 0 ≤ limit then s.take limit.toNat else s.take (s.length - (-limit).toNat)

namespace Block

def lineCount (b : Block) : Int := b.endLine - b.startLine + 1

/-- Where the block starts. Blocks that start at one place are told apart by nothing else. The line is
taken to be a writable number (`Numeral.isWritable`), which is asked of a report as a whole only. -/
def locationKey (b : Block) : String := b.file ++ ":" ++ Numeral.text b.startLine

/-- Here too the lines are taken to be writable. -/
def location (b : Block) : String :=
  b.file ++ ":" ++ Numeral.text b.startLine ++ "-" ++ Numeral.text b.endLine

def preview (b : Block) (limit : Int) : String :=
  .ofList (leading limit (Text.trim b.content.toList))

end CloneScan.Block
