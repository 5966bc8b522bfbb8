import TypeContracts.Emission.Marker
import TypeContracts.Files.Tree
import TypeContracts.Text.LineEnds

/-!
# Merging into files

Writing a generated text over an existing file keeps the custom section of the file. A
file without a marker line is hand-written and stays as it is.
-/

set_option autoImplicit false

namespace TypeContracts

/-- What writing a text did to its file. -/
inductive WriteStatus where
  | created
  | updated
  | unchanged
deriving DecidableEq, Repr

/-- The word for a status. -/
def WriteStatus.text : WriteStatus → String
  | .created => "created"
  | .updated => "updated"
  | .unchanged => "unchanged"

/-- Why a text is not written: a fault of the file system, or a hand-written file. -/
inductive WriteFault where
  | file (fault : FileFault)
  | handWritten
deriving DecidableEq, Repr

namespace Emission

/-- The report of a hand-written file. -/
def handWrittenReport (path : String) (options : Options) : String :=
  path ++ " exists without the marker '" ++ options.marker ++
    "'; treating it as hand-written and skipping it"

/-- A text in place of an existing one, with the custom section of that one. -/
def merge (options : Options) (existing text : String) : Option (WriteStatus × String) :=
  (customSection? options existing).map fun custom =>
    let merged := text ++ custom
    (if merged = existing then .unchanged else .updated, merged)

/-- The tree with a text in a new file. -/
def create (tree : FileTree) (target : Location) (text : String) :
    Except FileFault FileTree := do
  let tree ← tree.ensureDirectories target.parent
  tree.write target (.text text)

/-- Writes a text to a file and keeps the custom section of the file. -/
def write (options : Options) (tree : FileTree) (target : Location) (text : String) :
    Except WriteFault (WriteStatus × FileTree) := do
  match ← (tree.find target).mapError .file with
  | none => return (.created, ← (create tree target text).mapError .file)
  | some _ =>
    let existing ← (tree.readText target).mapError .file
    match merge options (Text.unified existing) text with
    | none => throw .handWritten
    | some (.updated, merged) =>
      return (.updated, ← (tree.write target (.text merged)).mapError .file)
    | some (status, _) => return (status, tree)

end Emission

end TypeContracts
