import TypeContracts.Host.DeclarationName
import TypeContracts.Journal
import TypeContracts.Mapping.Override
import TypeContracts.Options

/-!
# Mapping rules

How a host type becomes a declaration or an inline reference. Objects and enumerations
have declarations of their own and are queued where they are referred to. Other shapes
are written in place. Nullability is added where a reference is used, in the way that
the options ask for.

The rules act on a state that only the services change, so that the same rules serve a
run that builds a graph and a run that records what is asked for. An override may ask
for a reference while one is worked out; such requests nest at most `nestingLimit` deep.
-/

set_option autoImplicit false

namespace TypeContracts

/-! ## Constants of the mapping -/

namespace Mapping

/-- The built-in types of the primitives, by full name. -/
def primitives : List (String × TypeRef) :=
  [("builtins.int", .number), ("builtins.float", .number), ("builtins.complex", .number),
   ("decimal.Decimal", .number), ("builtins.str", .string), ("builtins.bytes", .string),
   ("uuid.UUID", .string), ("builtins.bool", .boolean), ("typing.Any", .builtin "any"),
   ("builtins.object", .builtin "unknown"), ("builtins.NoneType", .null)]

/-- The names of the branded types of dates and times, by full name. -/
def brandedNames : List (String × String) :=
  [("datetime.datetime", "DateTimeString"), ("datetime.date", "DateString"),
   ("datetime.time", "TimeString")]

/-- The identity of the global alias for nullable types. -/
def nullableIdentity : Identity := { fullName := "contractgen.Nullable" }

/-- The global alias for nullable types. -/
def nullableAlias : Declaration :=
  .alias nullableIdentity "Nullable" (.union [.parameter "T", .null]) ["T"]

/-- How deep the requests of overrides for references may nest. -/
def nestingLimit : Nat := 200

end Mapping

/-- What a host type maps to. -/
inductive Mapped where
  | declarations (values : List Declaration)
  | inline (value : TypeRef)

/-- What a run offers to the rules: queueing a type, registering a declaration, and
reporting an event. -/
structure Services (Loader State : Type) where
  require : Host Loader → State → State
  register : Declaration → State → State
  report : Event → State → State

/-- A step of a mapping: it changes the state, and may fail after changing it. -/
abbrev MappingM (State : Type) := ExceptT Fault (StateM State)

/-- The rules with what they depend on. -/
structure Mapper (Loader State : Type) where
  options : Options
  override : Override Loader
  source : MemberSource Loader
  services : Services Loader State

namespace Mapping

variable {Loader State : Type}

/-! ## Declarations that need no reference -/

/-- The branded alias of a date or time type. -/
def brandedDate (host : Host Loader) : Declaration :=
  let name :=
    match brandedNames.find? (fun entry => entry.1 == host.fullName) with
    | some (_, name) => name
    | none => Text.capitalise host.name ++ "String"
  let brand : TypeRef := .object [.property "__brand" (.textLiteral name) false true]
  .alias { fullName := host.fullName } name (.intersection [.string, brand]) []

/-- The value of an entry at a position. Texts and whole numbers are kept; every other
value is replaced by the position. -/
def entryValue (position : Nat) : EnumValue → EnumLiteral
  | .text value => .text value
  | .integer value => .number value
  | _ => .number position

/-- The entries of a numeric enumeration. -/
def entries (members : List EnumMember) : List EnumEntry :=
  members.mapIdx fun position member => ⟨member.name, entryValue position member.value⟩

/-- The union of the names of an enumeration. -/
def nameUnion (members : List EnumMember) : TypeRef :=
  match members.map fun member => TypeRef.textLiteral member.name with
  | [] => .builtin "never"
  | [literal] => literal
  | literals => .union literals

/-- The declaration of an enumeration. -/
def enumeration (style : EnumStyle) (host : Host Loader) : Declaration :=
  match style with
  | .stringUnion => .alias host.identity host.declarationName (nameUnion host.enumMembers) []
  | .numeric => .enumeration host.identity host.declarationName (entries host.enumMembers)

end Mapping

/-! ## Requests of an override -/

namespace Request

variable {Loader State : Type}

/-- Carries out the requests of an override; `nested` works out references for it. -/
def run (services : Services Loader State) (nested : Host Loader → MappingM State TypeRef) :
    Request Loader → MappingM State (Option Claim)
  | .answer claim => pure claim
  | .fail fault => throw fault
  | .require host next => do
    modify (services.require host)
    run services nested next
  | .register declaration next => do
    modify (services.register declaration)
    run services nested next
  | .reference host next => ExceptT.mk do
    let result ← (nested host).run
    (run services nested (next result)).run

end Request

namespace Mapper

variable {Loader State : Type} (mapper : Mapper Loader State)

/-- Reports an event. -/
def report (event : Event) : MappingM State Unit := modify (mapper.services.report event)

/-- Queues a type and refers to its declaration. -/
def require (host : Host Loader) : MappingM State TypeRef := do
  modify (mapper.services.require host)
  return .declared host.identity

/-- Registers a declaration and refers to it. -/
def register (declaration : Declaration) : MappingM State TypeRef := do
  modify (mapper.services.register declaration)
  return .declared declaration.identity

/-- Adds nullability to a reference, unless it is the null type already. -/
def applyNullability (reference : TypeRef) (nullable : Bool) : MappingM State TypeRef := do
  if !nullable || reference.isNull then return reference
  match mapper.options.nullability with
  | .plain => return reference
  | .explicit => return .union [reference, .null]
  | .globalAlias =>
    let declared ← mapper.register Mapping.nullableAlias
    return .generic declared [reference]

/-- Asks the override about a type. -/
def ask (nested : Host Loader → MappingM State TypeRef) (host : Host Loader) :
    MappingM State (Option Claim) :=
  (mapper.override.ask host).run mapper.services nested

/-- Asks the override about a type that has to be written in place. -/
def askInline (nested : Host Loader → MappingM State TypeRef) (host : Host Loader) :
    MappingM State (Option TypeRef) := do
  match ← mapper.ask nested host with
  | none => return none
  | some (.reference reference) =>
    mapper.report (.claimed host.identity)
    return some reference
  | some (.declaration _) =>
    mapper.report (.claimed host.identity)
    throw (.unmappable host.identity.text .declaresInline)

/-- What the override makes of a type that is referred to, or what stands for a type
with a declaration of its own. Nothing is left for a type to be written in place. -/
def claimedReference (nested : Host Loader → MappingM State TypeRef) (host : Host Loader) :
    MappingM State (Option TypeRef) := do
  match ← mapper.ask nested host with
  | some (.declaration _) => return some (← mapper.require host)
  | some (.reference reference) => return some reference
  | none =>
    if host.kind.isDeclared then return some (← mapper.require host)
    else if host.kind = .date && mapper.options.dateStyle = .branded then
      return some (← mapper.register (Mapping.brandedDate host))
    else mapper.askInline nested host

/-- The member of an object type that stands for a mapping. -/
def keyedMember (key value : TypeRef) : Member :=
  if key.isIndexKey then .index "key" key value else .getter "key" key value false

mutual

/-- The reference to a type as if it had the given nullability. -/
def referenceAs (nested : Host Loader → MappingM State TypeRef) (nullable : Bool) :
    Host Loader → MappingM State TypeRef
  | ⟨kind, fullName, name, arguments, ownNullable, element, key, value, options, enumMembers,
      loader⟩ => do
    let host : Host Loader := ⟨kind, fullName, name, arguments, ownNullable, element, key, value,
      options, enumMembers, loader⟩
    let plain ←
      match ← mapper.claimedReference nested (host.asNullable nullable) with
      | some reference => pure reference
      | none => inPlace nested host
    mapper.applyNullability plain nullable

/-- The form of a type that is written in place. -/
def inPlace (nested : Host Loader → MappingM State TypeRef) :
    Host Loader → MappingM State TypeRef
  | ⟨kind, fullName, name, arguments, nullable, element, key, value, options, enumMembers,
      loader⟩ => do
    let host : Host Loader := ⟨kind, fullName, name, arguments, nullable, element, key, value,
      options, enumMembers, loader⟩
    let refuse (reason : UnmappableReason) : MappingM State TypeRef :=
      throw (.unmappable host.identity.text reason)
    match kind with
    | .date => return .string
    | .primitive =>
      match Mapping.primitives.find? (fun entry => entry.1 == fullName) with
      | some (_, reference) => return reference
      | none => refuse .unknownPrimitive
    | .sequence =>
      match element with
      | some element => return .array (← referenceAs nested element.nullable element)
      | none => refuse .noElement
    | .mapping =>
      match key, value with
      | some key, some value => do
        let keyReference ← referenceAs nested false key
        let valueReference ← referenceAs nested value.nullable value
        return .object [keyedMember keyReference valueReference]
      | _, _ => refuse .noKeyOrValue
    | .union =>
      match options with
      | [] => refuse .emptyUnion
      | option :: others => do
        let first ← referenceAs nested option.nullable option
        return .union (first :: (← referencesAll nested others))
    | .object => mapper.require host
    | .enumeration => mapper.require host

/-- The references to several types, from left to right. -/
def referencesAll (nested : Host Loader → MappingM State TypeRef) :
    List (Host Loader) → MappingM State (List TypeRef)
  | [] => return []
  | host :: rest => do
    let reference ← referenceAs nested host.nullable host
    return reference :: (← referencesAll nested rest)

end

/-- The reference to a type, with requests of overrides nested up to a depth. -/
def referenceWithin : Nat → Host Loader → MappingM State TypeRef
  | 0, _ => throw .exhausted
  | depth + 1, host => mapper.referenceAs (referenceWithin depth) host.nullable host

/-- The reference that a member of the given type uses. -/
def reference (host : Host Loader) : MappingM State TypeRef :=
  mapper.referenceWithin Mapping.nestingLimit host

/-- The properties of an object type, in member order. -/
def properties : List (HostMember Loader) → MappingM State (List Member)
  | [] => return []
  | member :: rest => do
    let type ← mapper.reference member.type
    let isOptional := mapper.options.optionalProperties && member.type.nullable
    return .property member.name type isOptional false :: (← properties rest)

/-- The declaration of an object type. -/
def interface (host : Host Loader) : MappingM State Declaration := do
  let members ← liftExcept (host.members mapper.source)
  return .interface host.identity host.declarationName (← mapper.properties members)
where
  /-- A result that does not touch the state. -/
  liftExcept {α : Type} (result : Except Fault α) : MappingM State α :=
    match result with
    | .ok value => pure value
    | .error fault => throw fault

/-- What a queued type maps to: declarations for a named type, or an inline reference. -/
def mapType (host : Host Loader) : MappingM State Mapped := do
  match ← mapper.ask mapper.reference host with
  | some claim =>
    mapper.report (.claimed host.identity)
    match claim with
    | .declaration declaration => return .declarations [declaration]
    | .reference reference => return .inline reference
  | none =>
    match host.kind with
    | .object => return .declarations [← mapper.interface host]
    | .enumeration =>
      return .declarations [Mapping.enumeration mapper.options.enumStyle host]
    | .date =>
      if mapper.options.dateStyle = .branded then
        return .declarations [Mapping.brandedDate host]
      else return .inline .string
    | _ => return .inline (← mapper.inPlace mapper.reference host)

end Mapper

end TypeContracts
