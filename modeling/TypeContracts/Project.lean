import TypeContracts.Config.Settings
import TypeContracts.Generation
import TypeContracts.Source.Description

/-!
# Projects

A generation run with the settings of a project: the root types come from the modules of
the project, the hand-written types of the settings stand in front of the given overrides,
and the layout and the options are those of the settings.
-/

set_option autoImplicit false

namespace TypeContracts.Project

/-- The override of a project: its hand-written types and the given overrides, if any. -/
def override (settings : Settings) (overrides : List (Override ClassLoader)) :
    Override ClassLoader :=
  let written :=
    if settings.overrides.isEmpty then [] else [Override.paths settings.overrides]
  match written ++ overrides with
  | [] => Override.silent
  | all => Override.composite all

/-- What the graph of a project is built with, once its modules are loaded. -/
def setting (settings : Settings) (overrides : List (Override ClassLoader)) (world : World) :
    Graph.Setting Form ClassLoader where
  options := settings.options
  override := override settings overrides
  layout := Layout.ofKind settings.layout settings.rootNamespace
  describe := Description.ofForm world []
  source := world.members

/-- The modules of a run: the given ones, or those of the settings. -/
def modulesFor (settings : Settings) (given : List String) : List String :=
  if given.isEmpty then settings.modules else given

/-- The root types of modules, with the report on their number. -/
def collect (shelf : Shelf) (modules : List String) :
    StateM World (Except Fault (List Form) × List Event) := do
  match ← (Loading.rootTypes shelf [] modules).run with
  | .ok roots => return (.ok roots, [.collected roots.length])
  | .error fault => return (.error fault, [])

/-- The texts of the units of a project, with the journal of the run. -/
def generate (settings : Settings) (overrides : List (Override ClassLoader)) (shelf : Shelf)
    (modules : List String) :
    StateM World (Except RunFault (List (String × String)) × List Event) := do
  match ← collect shelf (modulesFor settings modules) with
  | (.error fault, journal) => return (.error (.graph fault), journal)
  | (.ok roots, journal) =>
    let (result, events) := Generation.generate (setting settings overrides (← get)) roots
    return (result, journal ++ events)

/-- A run of a project that writes its texts below an output directory. -/
def generateFiles (settings : Settings) (overrides : List (Override ClassLoader))
    (shelf : Shelf) (modules : List String) (rootText : String) (output : Location)
    (tree : FileTree) : StateM World (Except RunFault Report × Generation.Progress) := do
  match ← collect shelf (modulesFor settings modules) with
  | (.error fault, journal) =>
    return (.error (.graph fault), { tree := tree, journal := journal })
  | (.ok roots, journal) =>
    let (result, progress) :=
      Generation.generateFiles (setting settings overrides (← get)) rootText output tree roots
    return (result, { progress with journal := journal ++ progress.journal })

end TypeContracts.Project
