import TypeContracts.Source.Bases

/-!
# Contract modules as they are written

A contract module declares type variables and defines classes, after it has imported
names from other modules. A module can also refuse to be executed. `SourceFault` holds
the ways in which executing modules fails.
-/

set_option autoImplicit false

namespace TypeContracts

/-! ## Sources -/

/-- A class as it is written. Its body first defines the nested classes, then annotates
fields, then assigns values; a record class has a mark in front of it and gets its fields
after that. -/
structure ClassSource where
  name : String
  mark : Option Expression := none
  bases : List Expression := []
  fields : List (String × Expression) := []
  members : List (String × MemberValue) := []
  nested : List ClassSource := []
deriving Repr, Inhabited

/-- The mark of a record class, in modules that name the spaces of the library. -/
def ClassSource.commonMark : Expression := .inSpace "dataclasses" ["dataclass"]

/-- What a module imports: a name of another module, all names of one, or a module as a
space of its own. The name that it is known by can be another one. -/
inductive ImportSource where
  | one (module name known : String)
  | all (module : String)
  | space (module : String) (known : Option String)
deriving DecidableEq, Repr

namespace ImportSource

/-- The module that is imported from. -/
def module : ImportSource → String
  | .one module _ _ => module
  | .all module => module
  | .space module _ => module

/-- The import of a name as it is written behind the module: alone, with the name that it is
known by, or a star for all names. -/
def ofWords (module : String) : List String → ImportSource
  | ["*"] => .all module
  | [name, "as", known] => .one module name known
  | words => .one module (Text.join " " words) (Text.join " " words)

/-- The imports of the names that a text lists between commas. -/
def ofText (module names : String) : List ImportSource :=
  (Text.cut ',' names).map fun part =>
    ofWords module ((Text.cut ' ' part).filter (· ≠ ""))

end ImportSource

/-- The spaces of the library that every contract module names, unless it is written as a
text. -/
def ModuleSource.commonSpaces : List String :=
  ["collections", "dataclasses", "datetime", "decimal", "enum", "typing", "uuid"]

/-- A module as it is written. `isDeferred` keeps its annotations as strings, `refusal` is
the name of the exception that executing it raises, with its message, and `spaces` are the
spaces of the library that it names before anything else. -/
structure ModuleSource where
  name : String
  isDeferred : Bool := false
  isPackage : Bool := false
  refusal : Option (String × String) := none
  spaces : List String := ModuleSource.commonSpaces
  imports : List ImportSource := []
  typeVariables : List String := []
  classes : List ClassSource := []
deriving Repr, Inhabited

/-! ## Faults -/

/-- Why a module cannot be executed or imported. -/
inductive SourceFault where
  | refused (kind message : String)
  | noException
  | exactArguments (owner : String) (count : Nat)
  | definition (fault : ClassFault)
  | noModule (name : String)
  | noPackage (name parent : String)
  | noName (name module place : String)
  | noNameYet (name module place : String)
  | vanished (name : String)
  | emptyName
  | relativeName (name : String)
  | noAnchor
  | aboveRoot
  | noPath (name parent : String)
  | noPackageGiven (name : String)
deriving DecidableEq, Repr

namespace SourceFault

/-- The report of a fault. -/
def message : SourceFault → String
  | .refused _ message => message
  | .noException => "exceptions must derive from BaseException"
  | .exactArguments owner count =>
    owner ++ " takes exactly " ++ toString count ++ " arguments (1 given)"
  | .definition fault => fault.message
  | .noModule name => "No module named '" ++ name ++ "'"
  | .noPackage name parent =>
    "No module named '" ++ name ++ "'; '" ++ parent ++ "' is not a package"
  | .noName name module place =>
    "cannot import name '" ++ name ++ "' from '" ++ module ++ "' (" ++ place ++ ")"
  | .noNameYet name module place =>
    "cannot import name '" ++ name ++ "' from partially initialized module '" ++ module ++
      "' (most likely due to a circular import) (" ++ place ++ ")"
  | .vanished name => "spec not found for the module '" ++ name ++ "'"
  | .emptyName => "Empty module name"
  | .relativeName name =>
    "the 'package' argument is required to perform a relative import for " ++ Text.quoted name
  | .noAnchor => "attempted relative import with no known parent package"
  | .aboveRoot => "attempted relative import beyond top-level package"
  | .noPath name parent =>
    "__path__ attribute not found on '" ++ parent ++ "' while trying to find '" ++ name ++ "'"
  | .noPackageGiven name =>
    "no package specified for " ++ Text.quoted name ++ " (required for relative module names)"

/-- The kind of exception that a fault is raised as. -/
def kind : SourceFault → String
  | .refused kind _ => kind
  | .definition fault => fault.kind
  | .noName .. => "ImportError"
  | .noNameYet .. => "ImportError"
  | .noAnchor => "ImportError"
  | .aboveRoot => "ImportError"
  | .noPackageGiven _ => "ImportError"
  | .emptyName => "ValueError"
  | .relativeName _ => "TypeError"
  | .noException | .exactArguments .. => "TypeError"
  | _ => "ModuleNotFoundError"

/-- A fault as a message quotes it. A key that was looked up in vain is put in quotes. -/
def shown : SourceFault → String
  | .refused kind message => if kind = "KeyError" then Text.quoted message else message
  | .definition fault => fault.shown
  | fault => fault.message

/-- The fault is one of importing, whoever raised it. -/
def isImportFault (fault : SourceFault) : Bool :=
  fault.kind = "ImportError" || fault.kind = "ModuleNotFoundError"

end SourceFault

end TypeContracts
