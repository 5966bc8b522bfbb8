import TypeContracts.Source.Definition

/-!
# Loading modules

Modules are found by name, executed once, and kept. A module is kept from the start of
its execution, so that modules can import each other in a circle, and dropped when its
execution fails. Executing a module again defines its names anew in the scope it has.
-/

set_option autoImplicit false

namespace TypeContracts

/-- What is found for the name of a module: a source, or a directory of modules. -/
inductive Found where
  | source (module : ModuleSource) (file : Location)
  | directory
deriving Inhabited

/-- Where modules are found. `depth` bounds how many imports are under way at a time, and
`rootText` is how reports write the root of the tree that holds the files. -/
structure Shelf where
  find : String → Option Found
  depth : Nat
  rootText : String

/-- A shelf without modules. -/
def Shelf.empty : Shelf := ⟨fun _ => none, 1, ""⟩

namespace Loading

/-! ## The scope of a module -/

/-- Changes a module that is kept. -/
def update (name : String) (change : LoadedModule → LoadedModule) : Loading Unit :=
  modify fun world =>
    { world with
      modules := world.modules.map fun entry =>
        if entry.1 = name then (name, change entry.2) else entry }

/-- Defines a name of a module. -/
def assign (module name : String) (form : Form) : Loading Unit :=
  update module fun loaded => { loaded with scope := loaded.scope.assign name form }

/-- Drops a module. -/
def drop (name : String) : Loading Unit :=
  modify fun world => { world with modules := world.modules.filter (·.1 ≠ name) }

/-- Keeps a module in the place of another of its name. -/
def keep (name : String) (module : LoadedModule) : Loading Unit := do
  drop name
  modify fun world => { world with modules := world.modules ++ [(name, module)] }

/-! ## Executing -/

/-- The name of the module around a module. -/
def parent? (name : String) : Option String :=
  (Text.cutLast? '.' name.toList).map fun (front, _) => String.ofList front

/-- The package that the relative names in a module start from. -/
def anchor (source : ModuleSource) : String :=
  if source.isPackage then source.name else (parent? source.name).getD ""

/-- The full name of a module as an import writes it. The first leading point stands for
the package of the importing module, and each further point for the package around. -/
def fullName (source : ModuleSource) (written : String) : Except SourceFault String :=
  let points := (written.toList.takeWhile (· = '.')).length
  if points = 0 then .ok written
  else if (anchor source).isEmpty then .error .noAnchor
  else
    let parts := Text.cut '.' (anchor source)
    if parts.length < points then .error .aboveRoot
    else
      let rest := written.toList.drop points
      let base := parts.take (parts.length + 1 - points)
      .ok (Text.join "." (if rest.isEmpty then base else base ++ [String.ofList rest]))

/-- The space of a module is one of the library, and no module that was loaded. -/
def isLibrary (world : World) (module : String) : Bool :=
  (world.module? module).isNone && Lookup.spaceNames.contains module

/-- Why a module has no name that is imported from it. -/
def missing (rootText : String) (loaded : LoadedModule) (module name : String) : SourceFault :=
  let place := (loaded.file.map (Location.text rootText)).getD "unknown location"
  if loaded.isComplete then .noName name module place else .noNameYet name module place

/-- Loads the module below a package that has a name, if there is one. -/
def loadBelow (load : String → Loading Unit) (loaded : LoadedModule) (inner : String) :
    Loading Unit :=
  if loaded.isPackage then
    tryCatch (load inner) fun fault => if fault = .noModule inner then pure () else throw fault
  else pure ()

/-- What an imported name stands for that the module did not have at first: a name that it has
by now, or a module below it. -/
def laterForm (rootText : String) (loaded : LoadedModule) (module name : String) :
    Loading Form := do
  let world ← get
  match (world.moduleScope module).find? name with
  | some form => return form
  | none =>
    let inner := module ++ "." ++ name
    if (world.module? inner).isSome then return .atom (.space inner)
    else throw (missing rootText loaded module name)

/-- What an imported name stands for: a name of the module, or a module below it. A package
loads the module below it that has the name. -/
def importedForm (rootText : String) (load : String → Loading Unit) (module name : String) :
    Loading Form := do
  let world ← get
  if isLibrary world module then
    return (Lookup.inLibrary module name).getD (World.opaqueForm name)
  else
    match (world.moduleScope module).find? name with
    | some form => return form
    | none =>
      let loaded := (world.module? module).getD {}
      loadBelow load loaded (module ++ "." ++ name)
      laterForm rootText loaded module name

/-- Executes an import. A space is known by the first part of its name, unless another name
is given to it. -/
def executeImport (rootText : String) (load : String → Loading Unit) (source : ModuleSource)
    (written : ImportSource) : Loading Unit := do
  let module ← liftM (fullName source (Text.normal written.module))
  load module
  match written with
  | .one _ name known =>
    assign source.name (Text.normal known) (← importedForm rootText load module (Text.normal name))
  | .all _ =>
    ((← get).moduleScope module).forM fun (name, form) =>
      if Text.startsWith "_" name then pure () else assign source.name name form
  | .space _ (some known) => assign source.name (Text.normal known) (.atom (.space module))
  | .space _ none =>
    let first := (Text.cut '.' module).head?.getD ""
    assign source.name first (.atom (.space first))

/-- How many arguments an exception takes that takes more than a message, with what takes
them. -/
def exceptionArguments? (name : String) : Option (String × Nat) :=
  match name with
  | "UnicodeDecodeError" | "UnicodeEncodeError" => some ("function", 5)
  | "UnicodeTranslateError" => some ("function", 4)
  | "BaseExceptionGroup" | "ExceptionGroup" => some ("BaseExceptionGroup.__new__()", 2)
  | _ => none

/-- What comes of raising an exception of a kind that is told by name. What the name stands
for is called with the message, and has to be an exception. -/
def refusal (world : World) (names : Lookup) (kind message : String) : SourceFault :=
  let expression := (Expression.ofText? kind).getD (.named kind)
  match world.evaluate names expression with
  | .error fault => .definition (.evaluation fault)
  | .ok (.atom (.library c)) =>
    if c.isException then
      match exceptionArguments? c.name with
      | some (owner, count) => .exactArguments owner count
      | none => .refused c.name message
    else called (.atom (.library c))
  | .ok head => called head
where
  /-- What comes of calling something that is no exception. -/
  called (head : Form) : SourceFault :=
    match world.call head [Form.ofValue (.text message)] with
    | .error fault => .definition (.evaluation fault)
    | .ok _ => .noException

/-- The mark by which annotations are deferred, as a value. -/
def deferringMark : Form :=
  .atom (.object "_Feature" "_Feature((3, 7, 0, 'beta', 1), None, 16777216)")

/-- The names that a module has before its body is executed. -/
def given (source : ModuleSource) : Scope :=
  let spaces := source.spaces.map fun space =>
    (Expression.spaceName space, Form.atom (.space space))
  let mark := if source.isDeferred then [("annotations", deferringMark)] else []
  [("__name__", Form.ofValue (.text source.name)), ("__doc__", .atom .none)] ++ mark ++ spaces

/-- Raises the exception of a module that refuses to be executed. -/
def refuse (source : ModuleSource) : Loading Unit :=
  match source.refusal with
  | some (kind, message) => do
    let world ← get
    throw (refusal world (.inModule (world.moduleScope source.name)) kind message)
  | none => pure ()

/-- Declares a type variable, which is none that was declared before. -/
def declare (source : ModuleSource) (name : String) : Loading Unit := do
  let world ← get
  set { world with typeVariables := world.typeVariables + 1 }
  assign source.name (Text.normal name) (.atom (.variable ⟨name, world.typeVariables⟩))

/-- Defines a class of a module. -/
def defineClass (source : ModuleSource) (written : ClassSource) : Loading Unit := do
  let form ← Definition.define { space := source.name, isDeferred := source.isDeferred } written
  assign source.name (Text.normal written.name) form

/-- Executes the body of a module in its scope. -/
def execute (rootText : String) (load : String → Loading Unit) (source : ModuleSource) :
    Loading Unit := do
  (given source).forM fun (name, form) => assign source.name name form
  refuse source
  source.imports.forM (executeImport rootText load source)
  source.typeVariables.forM (declare source)
  source.classes.forM (defineClass source)

/-- Keeps and executes a module, and drops it when its execution fails. A module that stands
in no file counts as complete from the start. -/
def enter (rootText : String) (load : String → Loading Unit) (source : ModuleSource)
    (file : Option Location) : Loading Unit := do
  keep source.name { isPackage := source.isPackage, file := file, isComplete := file.isNone }
  tryCatch (execute rootText load source) fun fault => do
    drop source.name
    throw fault
  update source.name fun loaded => { loaded with isComplete := true }

/-- There is a module of a name, or a space of the library. -/
def isThere (name : String) : Loading Bool := do
  let world ← get
  return (world.module? name).isSome || Lookup.spaceNames.contains name

/-- A module can have modules below it. -/
def isPackage (name : String) : Loading Bool := do
  return ((← get).module? name).any LoadedModule.isPackage

/-- Keeps what is found for the name of a module, and executes a source. -/
def enterFound (shelf : Shelf) (load : String → Loading Unit) (name : String) : Loading Unit :=
  match shelf.find name with
  | none => throw (.noModule name)
  | some .directory => keep name { isPackage := true, isComplete := true }
  | some (.source source file) => enter shelf.rootText load source (some file)

/-- Loads a module below a package that was loaded, which then has it under its own name. -/
def loadInner (shelf : Shelf) (load : String → Loading Unit) (name parent own : String) :
    Loading Unit := do
  if ← isThere name then return
  else if ← isPackage parent then
    enterFound shelf load name
    assign parent own (.atom (.space name))
  else throw (.noPackage name parent)

/-- Loads a module that is not kept yet, after the module around it. -/
def load (shelf : Shelf) : Nat → String → Loading Unit
  | 0, name => throw (.noModule name)
  | depth + 1, name => do
    if ← isThere name then return
    else
      match Text.cutLast? '.' name.toList with
      | none => enterFound shelf (load shelf depth) name
      | some (front, last) =>
        let parent := String.ofList front
        load shelf depth parent
        loadInner shelf (load shelf depth) name parent (String.ofList last)

/-- Loads a module by its full name, as an import does. -/
def require (shelf : Shelf) (name : String) : Loading Unit :=
  load shelf (shelf.depth + name.length) name

/-- Loads a module by a name that is given from outside. -/
def requireGiven (shelf : Shelf) (name : String) : Loading Unit :=
  if name.isEmpty then throw .emptyName
  else if Text.startsWith "." name then throw (.relativeName name)
  else require shelf name

/-- Executes modules that stand in no files one after another, each importable for those
behind it. None of them is a package. -/
def enterAll (sources : List ModuleSource) : Loading Unit :=
  sources.forM fun source =>
    enter "" (require Shelf.empty) { source with isPackage := false } none

/-! ## Executing again -/

/-- Executes a module again in the scope it has. -/
def reload (shelf : Shelf) (name : String) : Loading Unit := do
  match shelf.find name with
  | none => throw (.vanished name)
  | some .directory => update name fun loaded => { loaded with isPackage := true, file := none }
  | some (.source source file) =>
    update name fun loaded => { loaded with isPackage := source.isPackage, file := some file }
    execute shelf.rootText (require shelf) source

/-- A module is one of the given ones, or below one of them. -/
def isBelow (names : List String) (module : String) : Bool :=
  names.any fun name => module = name || Text.startsWith (name ++ ".") module

/-- Executes the loaded modules again that are, or are below, the given ones, in the order
of their names. -/
def reloadAll (shelf : Shelf) (names : List String) : Loading Unit := do
  let loaded := ((← get).modules.map Prod.fst).filter (isBelow names)
  (loaded.mergeSort (· ≤ ·)).forM (reload shelf)

end Loading

end TypeContracts
