import TypeContracts.Declaration.Basic
import TypeContracts.Fault

/-!
# Output units

One output file: its path, its declarations and its imports. Declarations and imports
share one scope. An import is compared with all names of the scope, and a declaration with
those of the other declarations. A name that is found there is a fault, and the unit stays
as it was; an import that is already there is not added again.
-/

set_option autoImplicit false

namespace TypeContracts

/-- One output file. -/
structure OutputUnit where
  path : String
  declarations : List Declaration := []
  imports : List Import := []
deriving Inhabited

namespace OutputUnit

/-- A declaration of the unit has the name. -/
def declares (unit : OutputUnit) (name : String) : Bool :=
  unit.declarations.any fun declaration => declaration.name == name

/-- An import of the unit has the name. -/
def importsName (unit : OutputUnit) (name : String) : Bool :=
  unit.imports.any fun statement => statement.name == name

/-- An import of the unit has the target and the name. -/
def importsFrom (unit : OutputUnit) (target name : String) : Bool :=
  unit.imports.any fun statement => statement.target == target && statement.name == name

/-- The unit with one more declaration. -/
def addDeclaration (unit : OutputUnit) (declaration : Declaration) : Except Fault OutputUnit :=
  if unit.declares declaration.name then .error (.nameConflict unit.path declaration.name)
  else .ok { unit with declarations := unit.declarations ++ [declaration] }

/-- The unit with one more import, unless it is already there. -/
def addImport (unit : OutputUnit) (statement : Import) : Except Fault OutputUnit :=
  if unit.importsFrom statement.target statement.name then .ok unit
  else if unit.importsName statement.name || unit.declares statement.name then
    .error (.nameConflict unit.path statement.name)
  else .ok { unit with imports := unit.imports ++ [statement] }

end OutputUnit

end TypeContracts
