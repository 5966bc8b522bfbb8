import TypeContracts.Text.Pieces

/-!
# Faults of a generation run

Why a run stops: a type that cannot be mapped or described, an override that is not
unique, a name that a unit would hold twice. Each cause carries what its report names,
and `Fault.message` is the report.
-/

set_option autoImplicit false

namespace TypeContracts

/-- Why neither an override nor a rule maps a type. -/
inductive UnmappableReason where
  | unknownPrimitive
  | noElement
  | noKeyOrValue
  | emptyUnion
  | declaresInline
  | noDeclaration
  | neverDeclared
deriving DecidableEq, Repr

/-- The reason in words. -/
def UnmappableReason.text : UnmappableReason → String
  | .unknownPrimitive => "unknown primitive"
  | .noElement => "sequence without element type"
  | .noKeyOrValue => "mapping without key or value type"
  | .emptyUnion => "empty union"
  | .declaresInline => "produced declarations for an inline type"
  | .noDeclaration => "mapping produced no declaration with the requested identity"
  | .neverDeclared => "referenced but never declared"

/-- Why a provider cannot describe a type. -/
inductive ProviderReason where
  | unboundVariable
  | unsupportedForm
  | notAType
  | genericWithoutArguments
  | noFields
  | argumentCount
  | annotations (cause : String)
  | notImportable (cause : String)
  | reported (text : String)
deriving DecidableEq, Repr

/-- The reason in words. -/
def ProviderReason.text : ProviderReason → String
  | .unboundVariable => "unbound type variable"
  | .unsupportedForm => "unsupported generic form"
  | .notAType => "not a class or typing annotation"
  | .genericWithoutArguments => "generic class used without type arguments"
  | .noFields => "class has no annotated fields"
  | .argumentCount => "wrong number of type arguments"
  | .annotations cause => "cannot resolve annotations: " ++ cause
  | .notImportable cause => "cannot import module: " ++ cause
  | .reported text => text

/-- Why a generation run stops. `raised` is an exception of the contracts' own code, and
`exhausted` marks a run that was cut off at its step limit. -/
inductive Fault where
  | unmappable (type : String) (reason : UnmappableReason)
  | ambiguous (type : String) (claimants : List String)
  | unresolved (type : String) (reason : ProviderReason)
  | nameConflict (unit name : String)
  | raised (kind message : String)
  | exhausted
deriving DecidableEq, Repr

/-- A message with a reason behind it, where there is one. -/
def withReason (message reason : String) : String :=
  if reason.isEmpty then message else message ++ ": " ++ reason

/-- The report of a fault. -/
def Fault.message : Fault → String
  | .unmappable type reason =>
    withReason ("Cannot map type '" ++ type ++ "' to TypeScript") reason.text
  | .ambiguous type claimants =>
    "Type '" ++ type ++ "' is claimed by several overrides: " ++ Text.join ", " claimants
  | .unresolved type reason =>
    withReason ("Type provider cannot resolve '" ++ type ++ "'") reason.text
  | .nameConflict unit name =>
    "Name '" ++ name ++ "' is declared or imported twice in unit '" ++ unit ++ "'"
  | .raised _ message => message
  | .exhausted => "maximum recursion depth exceeded"

/-- The fault lies in the contracts themselves. A run reports it; any other fault ends the
program. -/
def Fault.isReported : Fault → Bool
  | .raised .. => false
  | .exhausted => false
  | _ => true

end TypeContracts
