import TypeContracts.Fault
import TypeContracts.Host.Value
import TypeContracts.Identity

/-!
# Host types

One occurrence of a type in the data contracts, as a provider describes it. The
description is a tree, except for the members of an object: they are named by a loader
and read through the provider when they are needed, so that types can refer to each
other in cycles.

The identity of an occurrence leaves its own nullability out (`identity_asNullable`):
a nullable reference to a type resolves to the one declaration of the type.
-/

set_option autoImplicit false

namespace TypeContracts

/-- The structural shape of a host type. -/
inductive Kind where
  | primitive
  | date
  | sequence
  | mapping
  | enumeration
  | object
  | union
deriving DecidableEq, Repr, Inhabited

/-- The word for a shape. -/
def Kind.text : Kind → String
  | .primitive => "primitive"
  | .date => "date"
  | .sequence => "sequence"
  | .mapping => "mapping"
  | .enumeration => "enum"
  | .object => "object"
  | .union => "union"

/-- All shapes. -/
def Kind.all : List Kind :=
  [.primitive, .date, .sequence, .mapping, .enumeration, .object, .union]

/-- The shape of a word. -/
def Kind.ofText? (word : String) : Option Kind := Kind.all.find? fun kind => kind.text = word

theorem Kind.ofText?_text (kind : Kind) : Kind.ofText? kind.text = some kind := by
  cases kind <;> decide

/-- The shape has a declaration of its own. -/
def Kind.isDeclared : Kind → Bool
  | .object => true
  | .enumeration => true
  | _ => false

/-- A member of a host enumeration. -/
structure EnumMember where
  name : String
  value : EnumValue
deriving Repr, Inhabited

/-- One occurrence of a host type. -/
structure Host (Loader : Type) where
  kind : Kind
  fullName : String
  name : String
  arguments : List (Host Loader) := []
  nullable : Bool := false
  element : Option (Host Loader) := none
  key : Option (Host Loader) := none
  value : Option (Host Loader) := none
  options : List (Host Loader) := []
  enumMembers : List EnumMember := []
  loader : Option Loader := none
deriving Inhabited

/-- A named member of an object type. -/
structure HostMember (Loader : Type) where
  name : String
  type : Host Loader
deriving Inhabited

/-- How the members behind a loader are read. -/
abbrev MemberSource (Loader : Type) := Loader → Except Fault (List (HostMember Loader))

namespace Host

variable {Loader : Type}

/-! ## Identity and nullability -/

mutual

/-- The key under which the type is declared. -/
def identity : Host Loader → Identity
  | ⟨_, fullName, _, arguments, _, _, _, _, _, _, _⟩ =>
    ⟨fullName, argumentIdentities arguments, false⟩

/-- The identities of type arguments, which keep their nullability. -/
def argumentIdentities : List (Host Loader) → List Identity
  | [] => []
  | argument :: rest =>
    { identity argument with nullable := argument.nullable } :: argumentIdentities rest

end

/-- The same type with the given nullability. -/
def asNullable (host : Host Loader) (nullable : Bool) : Host Loader :=
  { host with nullable := nullable }

@[simp] theorem identity_asNullable (host : Host Loader) (nullable : Bool) :
    (host.asNullable nullable).identity = host.identity := by
  cases host
  simp only [asNullable, identity]

/-- The namespace of the type. -/
def space (host : Host Loader) : String := Identity.namespaceOf host.fullName

/-- The members of the type; a type without a loader has none. -/
def members (source : MemberSource Loader) (host : Host Loader) :
    Except Fault (List (HostMember Loader)) :=
  match host.loader with
  | none => .ok []
  | some loader => source loader

/-! ## Comparing occurrences -/

mutual

/-- Two occurrences agree in everything but the loader of their members. -/
def same : Host Loader → Host Loader → Bool
  | ⟨kind, fullName, name, arguments, nullable, element, key, value, options, members, _⟩,
    ⟨kind', fullName', name', arguments', nullable', element', key', value', options',
      members', _⟩ =>
    kind == kind' && fullName == fullName' && name == name' && nullable == nullable' &&
      sameAll arguments arguments' && sameOption element element' && sameOption key key' &&
      sameOption value value' && sameAll options options' &&
      members.map EnumMember.name == members'.map EnumMember.name &&
      EnumValue.sameAll (members.map EnumMember.value) (members'.map EnumMember.value)

/-- Lists of occurrences that agree one by one. -/
def sameAll : List (Host Loader) → List (Host Loader) → Bool
  | [], [] => true
  | a :: as, b :: bs => same a b && sameAll as bs
  | _, _ => false

/-- Both are missing, or both are there and agree. -/
def sameOption : Option (Host Loader) → Option (Host Loader) → Bool
  | none, none => true
  | some a, some b => same a b
  | _, _ => false

end

end Host

end TypeContracts
