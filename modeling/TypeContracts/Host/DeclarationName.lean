import TypeContracts.Host.Basic
import TypeContracts.Text.Case

/-!
# Names of declarations

The name under which a host type is declared. A type without arguments keeps its name
with a capital letter. An instantiation is named after its arguments, as in `PageOfInt`
or `PairOfStrAndNullableInt`. Argument names come from the host types and not from
what they map to, so that two instantiations over different number types stay apart.
-/

set_option autoImplicit false

namespace TypeContracts.Host

variable {Loader : Type}

/-- The mark of a nullable argument. -/
def nullableMark (nullable : Bool) : String := if nullable then "Nullable" else ""

/-- A name applied to the names of its arguments. -/
def appliedName (name : String) (arguments : List String) : String :=
  match arguments with
  | [] => Text.capitalise name
  | _ :: _ => Text.capitalise name ++ "Of" ++ Text.join "And" arguments

mutual

/-- The names of several arguments. -/
def displayNames : List (Host Loader) → List String
  | [] => []
  | host :: rest => (nullableMark host.nullable ++ argumentName host) :: displayNames rest

/-- The name of a type as an argument, without its nullability. -/
def argumentName : Host Loader → String
  | ⟨kind, _, name, arguments, _, element, key, value, options, _, _⟩ =>
    match kind, element, key, value with
    | .object, _, _, _ => appliedName name (displayNames arguments)
    | .enumeration, _, _, _ => appliedName name (displayNames arguments)
    | .sequence, some element, _, _ =>
      nullableMark element.nullable ++ argumentName element ++ Text.capitalise name
    | .mapping, _, some key, some value =>
      nullableMark key.nullable ++ argumentName key ++ "To" ++
        nullableMark value.nullable ++ argumentName value ++ Text.capitalise name
    | .union, _, _, _ => Text.join "Or" (displayNames options)
    | _, _, _, _ => Text.capitalise name

end

/-- The name of the declaration of a type. -/
def declarationName (host : Host Loader) : String :=
  appliedName host.name (displayNames host.arguments)

end TypeContracts.Host
