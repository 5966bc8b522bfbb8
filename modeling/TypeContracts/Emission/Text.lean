import TypeContracts.Declaration.Render
import TypeContracts.Options
import TypeContracts.OutputUnit

/-!
# The text of a unit

A generated file: a header, the imports in the order of their targets and names, the
declarations with a blank line behind each, and the marker line. What stands behind the
marker line is not generated.
-/

set_option autoImplicit false

namespace TypeContracts

/-- Why a unit has no text: an import or a declaration that cannot be written. -/
inductive EmissionFault where
  | specifier (fault : UnitPath.ImportFault)
  | render (fault : RenderFault)
deriving DecidableEq

/-- The report of a unit without a text. -/
def EmissionFault.message : EmissionFault → String
  | .specifier fault => fault.message
  | .render fault => fault.message

namespace Emission

/-- The first line of a generated file. -/
def header : String :=
  "// This file was generated by contractgen. Changes above the marker are overwritten."

/-- The line that ends the generated part. -/
def markerLine (options : Options) : String := "// " ++ options.marker

/-- The name under which the units declare an identity; the last declaration counts. -/
def naming (units : List OutputUnit) : Naming := fun identity =>
  ((units.flatMap OutputUnit.declarations).reverse.find? fun declaration =>
    declaration.identity == identity).map Declaration.name

/-- An import comes no later than another: by target, then by name. -/
def importOrder (a b : Import) : Bool :=
  if a.target = b.target then decide (a.name ≤ b.name) else decide (a.target ≤ b.target)

/-- The imports of a unit as they are written. -/
def sortImports (imports : List Import) : List Import := imports.mergeSort importOrder

/-- The lines of the imports. -/
def importLines (imports : List Import) : Except EmissionFault (List String) :=
  match (sortImports imports).mapM Import.render with
  | .ok lines => .ok lines
  | .error fault => .error (.specifier fault)

/-- The texts of the declarations. -/
def blocks (names : Naming) (declarations : List Declaration) :
    Except EmissionFault (List String) :=
  match declarations.mapM (Declaration.render names) with
  | .ok texts => .ok texts
  | .error fault => .error (.render fault)

/-- A text as a line. -/
def line (text : String) : String := text ++ "\n"

/-- A declaration with what stands around it. -/
def block (mark : LinterMark) (text : String) : String :=
  (if mark = .perLine then line "// eslint-disable-next-line" else "") ++ line text ++ line ""

/-- The file that consists of the given lines and blocks. -/
def assemble (options : Options) (imports declarations : List String) : String :=
  line header ++
    (if options.linterMark = .perFile then line "/* eslint-disable */" else "") ++
    String.join (imports.map line) ++
    (if imports.isEmpty then "" else line "") ++
    String.join (declarations.map (block options.linterMark)) ++
    line (markerLine options)

/-- The text of a unit among all units. -/
def emit (options : Options) (unit : OutputUnit) (units : List OutputUnit) :
    Except EmissionFault String := do
  let imports ← importLines unit.imports
  let declarations ← blocks (naming units) unit.declarations
  return assemble options imports declarations

/-- The texts of all units, with their paths. -/
def emitAll (options : Options) (units : List OutputUnit) :
    Except EmissionFault (List (String × String)) :=
  units.mapM fun unit => do return (unit.path, ← emit options unit units)

end Emission

end TypeContracts
