import CloneScan.Text.Blank

/-! Kinds of source lines, told from how a line starts once it is trimmed. A window has to be
code for at least half of its lines. -/
namespace CloneScan.Source

def startsWithAny (marks : List String) (s : List Char) : Bool :=
  marks.any fun mark => mark.toList.isPrefixOf s

def isCommentLine (line : List Char) : Bool :=
  startsWithAny ["//", "/*", "*"] (Text.trim line)

/-- The mark ends in a space, so something has to follow it. -/
def isImportLine (line : List Char) : Bool :=
  startsWithAny ["import ", "#include "] (Text.trim line)

def isCodeLine (line : List Char) : Bool := !(isCommentLine line || isImportLine line)

end CloneScan.Source
