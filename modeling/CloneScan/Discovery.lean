import CloneScan.Files.Disk
import CloneScan.Files.Sources
import CloneScan.Settings
import CloneScan.Text.Case.Lower
import CloneScan.Value.Access

/-! Which files of a tree are scanned: those with one of the wanted extensions, whatever their
capitals, outside of the excluded directories. The path of the tree is looked up as paths are, but what
lies below is taken as it is held in memory: no limit is set to the length of the names and paths there,
nor to how deep directories are nested. -/
namespace CloneScan.Discovery

inductive Fault where
  /-- The directory to scan is not there. -/
  | noDirectory (path : String)
  | file (f : FileFault)
  | extensionNotText (got : Value)
  | excludedNotKey (got : Value)

def Fault.message : Fault → String
  | noDirectory path => "Source directory not found: " ++ path
  | file f => f.message
  | extensionNotText got => "'" ++ got.typeName ++ "' object has no attribute 'lower'"
  | excludedNotKey got => "unhashable type: '" ++ got.typeName ++ "'"

def lowerExtensions : List Value → Except Fault (List (List Char))
  | [] => .ok []
  | .text s :: rest => (lowerExtensions rest).map (Text.lower s.toList :: ·)
  | v :: _ => .error (.extensionNotText v)

/-- Names of directories; values that are no text exclude nothing. -/
def excludedNames : List Value → Except Fault (List String)
  | [] => .ok []
  | .text s :: rest => (excludedNames rest).map (s :: ·)
  | v :: rest => if v.isKey then excludedNames rest else .error (.excludedNotKey v)

def isWanted (extensions : List (List Char)) (name : String) : Bool :=
  extensions.contains (Text.lower (Path.extensionOf name.toList))

/-- The files below a path. There are none below a file, or where nothing is; only a path that no
file can have is a fault. -/
def find (d : Disk) (root : Path) (extensions excluded : List Value) :
    Except Fault (List Node.Source) := do
  let extensions ← lowerExtensions extensions
  let excluded ← excludedNames excluded
  if root.hasNull then throw (.file ⟨.nullCharacter, root, none⟩)
  match d.node? root with
  | some top => return top.sources (isWanted extensions) fun name => !excluded.contains name
  | none => return []

end CloneScan.Discovery
