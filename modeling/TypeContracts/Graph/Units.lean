import TypeContracts.Declaration.References
import TypeContracts.Graph.Builder
import TypeContracts.Layout
import TypeContracts.OutputUnit
import TypeContracts.UnitPath

/-!
# Units of a graph

The last stage of a build: every declaration goes into the unit that the layout names,
and every unit imports what its declarations refer to in other units and in
hand-written modules. Units come out in the order of their paths.
-/

set_option autoImplicit false

namespace TypeContracts.Graph

/-! ## Assigning units -/

/-- The path of the unit of a declaration. -/
def unitPath (options : Options) (layout : Layout) (identity : Identity)
    (declaration : Declaration) : String :=
  UnitPath.normalise
    (if identity = Mapping.nullableIdentity then options.nullablePath else layout declaration)

/-- The units with one more declaration, at the given path. -/
def place (path : String) (declaration : Declaration) :
    List OutputUnit → Except Fault (List OutputUnit)
  | [] => do return [← OutputUnit.addDeclaration { path := path } declaration]
  | unit :: others => do
    if unit.path = path then return (← unit.addDeclaration declaration) :: others
    else return unit :: (← place path declaration others)

/-- The units of the declarations, in the order of their first declaration. -/
def assignUnits (options : Options) (layout : Layout) (units : List OutputUnit) :
    List (Identity × Declaration) → Except Fault (List OutputUnit)
  | [] => .ok units
  | (identity, declaration) :: rest => do
    let units ← place (unitPath options layout identity declaration) declaration units
    assignUnits options layout units rest

/-! ## Resolving imports -/

/-- Where an identity is declared: the path of its unit, and its name. -/
abbrev Homes := Identity → Option (String × String)

/-- The homes of the declarations of a build. -/
def homes (options : Options) (layout : Layout) (cache : List (Identity × Declaration)) :
    Homes := fun identity =>
  (cache.find? fun entry => entry.1 == identity).map fun entry =>
    (unitPath options layout entry.1 entry.2, entry.2.name)

/-- The import that a reference needs in the unit at a path, if it needs one. -/
def importFor (homes : Homes) (path : String) : TypeRef → Except Fault (Option Import)
  | .declared identity =>
    match homes identity with
    | none => .error (.unmappable identity.text .neverDeclared)
    | some (target, name) =>
      .ok (if target = path then none else some (.fromUnit name target path))
  | .imported name written =>
    let target := UnitPath.normalise written
    .ok (if target = path then none else some (.fromPath name target path))
  | _ => .ok none

/-- The unit with the imports of the references. -/
def addImports (homes : Homes) (unit : OutputUnit) : List TypeRef → Except Fault OutputUnit
  | [] => .ok unit
  | reference :: rest => do
    match ← importFor homes unit.path reference with
    | none => addImports homes unit rest
    | some statement => addImports homes (← unit.addImport statement) rest

/-- The references of all declarations of a unit. -/
def unitReferences (unit : OutputUnit) : List TypeRef :=
  unit.declarations.flatMap Declaration.references

/-- The units with their imports. -/
def resolveImports (homes : Homes) : List OutputUnit → Except Fault (List OutputUnit)
  | [] => .ok []
  | unit :: rest => do
    let unit ← addImports homes unit (unitReferences unit)
    return unit :: (← resolveImports homes rest)

/-! ## The units of a build -/

/-- Units in the order of their paths. -/
def sortUnits (units : List OutputUnit) : List OutputUnit :=
  units.mergeSort fun a b => decide (a.path ≤ b.path)

/-- The units of the declarations of a build. -/
def units (options : Options) (layout : Layout) (cache : List (Identity × Declaration)) :
    Except Fault (List OutputUnit) := do
  let assigned ← assignUnits options layout [] cache
  return sortUnits (← resolveImports (homes options layout cache) assigned)

end TypeContracts.Graph
