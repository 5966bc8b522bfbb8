import TypeContracts.Files.Tree
import TypeContracts.Source.Loading

/-!
# Modules in a file tree

Modules are found below a directory: the parts of a name lead through directories to a
package, which is a directory with an `__init__` file, to a single file, or to a directory
that only holds other modules. Besides sources there are compiled files, which are found
before or after them by the endings of their names. What a module consists of is its file,
or for a package everything in its directory that is named like a source.
-/

set_option autoImplicit false

namespace TypeContracts

/-- How a module stands in a file tree. -/
inductive ModulePlace where
  | package (file : Location)
  | single (file : Location)
  | directory
deriving DecidableEq, Repr

namespace ModulePlace

/-- The ending of the names of module files. -/
def ending : String := ".py"

/-- The name of the file that makes a directory a package. -/
def packageFile : String := "__init__" ++ ending

/-- The endings of the files that machine code is linked from. -/
def linkedEndings : List String := [".cpython-311-x86_64-linux-gnu.so", ".abi3.so", ".so"]

/-- The ending of compiled sources. -/
def compiledEnding : String := ending ++ "c"

/-- The endings of the files that a module may stand in; the first one that is there is
taken. -/
def endings : List String := linkedEndings ++ [ending, compiledEnding]

/-- The first file that is there with one of the endings behind a name. -/
def firstFile? (tree : FileTree) (directory : Location) (name : String) : Option Location :=
  (endings.map fun ending => directory.inner (name ++ ending)).find? tree.hasFile

/-- The place of a module in a directory. -/
def inDirectory? (tree : FileTree) (directory : Location) (name : String) :
    Option ModulePlace :=
  match firstFile? tree (directory.inner name) "__init__", firstFile? tree directory name with
  | some file, _ => some (.package file)
  | none, some file => some (.single file)
  | none, none => if tree.hasDirectory (directory.inner name) then some .directory else none

/-- Why a compiled file cannot be executed: what a source was compiled to starts with a
mark that no text starts with, and machine code fills at least its header. -/
def refusal? (tree : FileTree) (rootText name : String) (file : Location) :
    Option (String × String) :=
  let bytes := ((tree.read file).toOption.map Content.bytes).getD []
  if Text.endsWith compiledEnding file.name then
    some ("ImportError", "bad magic number in " ++ Text.quoted name ++ ": " ++
      Text.quotedBytes (bytes.take 4))
  else if linkedEndings.any fun ending => Text.endsWith ending file.name then
    some ("ImportError", file.text rootText ++
      (if bytes.length < 64 then ": file too short" else ": invalid ELF header"))
  else none

/-- The place of a module by its full name, below a root. -/
def find? (tree : FileTree) (root : Location) (name : String) : Option ModulePlace :=
  let parts := Text.cut '.' name
  if parts.contains "" then none
  else inDirectory? tree (parts.dropLast.foldl Location.inner root) (parts.getLast?.getD "")

/-- The files that a module may stand in, and the packages around it. -/
def candidates (root : Location) (name : String) : List Location :=
  let parts := Text.cut '.' name
  ((Location.beginnings parts).drop 1).flatMap fun parts =>
    let place := parts.foldl Location.inner root
    [place.inner packageFile, place.parent.inner (place.name ++ ending)]

end ModulePlace

/-- The shelf of the modules below a root, where `read` gives the source in a file. -/
def Shelf.ofTree (tree : FileTree) (read : Location → ModuleSource) (root : Location)
    (rootText : String) : Shelf where
  find name :=
    let source (isPackage : Bool) (file : Location) : Found :=
      match ModulePlace.refusal? tree rootText name file with
      | some refusal => .source { name, isPackage, refusal := some refusal } file
      | none => .source { read file with name, isPackage } file
    match ModulePlace.find? tree root name with
    | none => none
    | some .directory => some .directory
    | some (.package file) => some (source true file)
    | some (.single file) => some (source false file)
  depth := tree.entries.length + 1
  rootText := rootText

/-- The modules that a module may load, by name: those it imports from, and what it imports
where that is a module itself. -/
def ModuleSource.mentioned (source : ModuleSource) : List String :=
  source.imports.flatMap fun written =>
    match Loading.fullName source written.module, written with
    | .ok module, .one _ name _ => [module, module ++ "." ++ name]
    | .ok module, _ => [module]
    | .error _, _ => []

namespace Loading

/-- The files that a module with the given file consists of. -/
def filesOf (tree : FileTree) (isPackage : Bool) (file : Location) : List Location :=
  if isPackage then
    (tree.placesBelow file.parent).filter fun place =>
      Text.endsWith ModulePlace.ending place.name
  else [file]

/-- The files that a module consists of, by its name. Only the package around it is
loaded; nothing is told of a module that is not there. -/
def moduleFiles (shelf : Shelf) (tree : FileTree) (name : String) : Loading (List Location) := do
  if Text.startsWith "." name then throw (.noPackageGiven name)
  match (← get).module? name with
  | some loaded => return (loaded.file.map (filesOf tree loaded.isPackage)).getD []
  | none =>
    match parent? name with
    | none => pure ()
    | some parent =>
      require shelf parent
      if !(((← get).module? parent).any LoadedModule.isPackage) then
        throw (.noPath name parent)
    match shelf.find name with
    | some (.source source file) => return filesOf tree source.isPackage file
    | _ => return []

/-- The files that modules consist of, one module after another. -/
def watchedFiles (shelf : Shelf) (tree : FileTree) (names : List String) :
    Loading (List Location) :=
  return (← names.mapM (moduleFiles shelf tree)).flatten

end Loading

end TypeContracts
