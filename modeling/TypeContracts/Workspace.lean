import TypeContracts.Config.Settings
import TypeContracts.Source.Finding
import TypeContracts.Source.ModuleText

/-!
# Workspaces

The files that a run works on, together with what is known of some of them: the source of
a contract module, or the data of a configuration. What is known of a file is forgotten
when the file is written again or removed.
-/

set_option autoImplicit false

namespace TypeContracts

/-- Files with the contract modules and the configurations in them. -/
structure Workspace where
  tree : FileTree := {}
  modules : List (Location × ModuleSource) := []
  configs : List (Location × Data) := []
deriving Inhabited

namespace Workspace

/-! ## Reading -/

/-- The contract module in a file: the one that is known to be there, or the one that the
text of the file declares. -/
def moduleAt (workspace : Workspace) (file : Location) : ModuleSource :=
  match workspace.modules.lookup file with
  | some source => source
  | none => .ofText ((workspace.tree.readText file).toOption.getD "")

/-- What the configuration file at a place says. -/
def configAt (workspace : Workspace) (file : Location) : Except FileFault ConfigSource :=
  (workspace.tree.find file).bind fun
    | none => .ok .missing
    | some _ =>
      match workspace.configs.lookup file with
      | some data => .ok (.data data)
      | none => (workspace.tree.readText file).map .text

/-- The shelf of the modules below a root. -/
def shelf (workspace : Workspace) (root : Location) (rootText : String) : Shelf :=
  Shelf.ofTree workspace.tree workspace.moduleAt root rootText

/-! ## Changing -/

/-- The workspace with another tree in which a file is new. -/
def renewed (workspace : Workspace) (tree : FileTree) (file : Location) : Workspace where
  tree := tree
  modules := workspace.modules.filter fun entry => entry.1 ≠ file
  configs := workspace.configs.filter fun entry => entry.1 ≠ file

/-- Puts a content into a file, with the directories above it. -/
def put (workspace : Workspace) (file : Location) (content : Content) :
    Except FileFault Workspace := do
  let tree ← workspace.tree.ensureDirectories file.parent
  return workspace.renewed (← tree.write file content) file.plain

/-- Puts more content at the end of a file, with the directories above it. -/
def append (workspace : Workspace) (file : Location) (content : Content) :
    Except FileFault Workspace := do
  let tree ← workspace.tree.ensureDirectories file.parent
  return { workspace with tree := ← tree.append file content }

/-- Removes a file. -/
def remove (workspace : Workspace) (file : Location) : Except FileFault Workspace :=
  return workspace.renewed (← workspace.tree.remove file) file.plain

/-- The file of a module below a root. -/
def moduleFile (root : Location) (source : ModuleSource) : Location :=
  let place := (Text.cut '.' source.name).foldl Location.inner root
  if source.isPackage then place.inner ModulePlace.packageFile
  else place.parent.inner (place.name ++ ModulePlace.ending)

/-- Puts a contract module into its file below a root. -/
def saveModule (workspace : Workspace) (root : Location) (source : ModuleSource) :
    Except FileFault Workspace := do
  let file := moduleFile root source
  let workspace ← workspace.put file (.text "")
  return { workspace with modules := (file, source) :: workspace.modules }

/-- Puts the data of a configuration into a file. -/
def saveConfig (workspace : Workspace) (file : Location) (data : Data) :
    Except FileFault Workspace := do
  let workspace ← workspace.put file (.text "")
  return { workspace with configs := (file, data) :: workspace.configs }

end Workspace

end TypeContracts
