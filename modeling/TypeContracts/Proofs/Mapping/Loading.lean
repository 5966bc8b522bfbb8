import TypeContracts.Proofs.Mapping.Rules

/-!
# Where members are loaded

A reference to an object asks for its declaration and leaves its members alone. So members are
loaded in one place only: when an object itself is mapped, and then they are its own
(`Mapper.mapType_withSource`).
-/

set_option autoImplicit false

namespace TypeContracts.Mapper

variable {Loader State : Type} {mapper : Mapper Loader State}
  {nested : Host Loader → MappingM State TypeRef}

/-- The same rules with other members behind the loaders. -/
def withSource (mapper : Mapper Loader State) (source : MemberSource Loader) :
    Mapper Loader State :=
  { mapper with source := source }

variable (source : MemberSource Loader)

/-- References to several types load no members if each of them loads none. -/
theorem referencesAll_withSource {hosts : List (Host Loader)}
    (each : ∀ host ∈ hosts, (mapper.withSource source).referenceAs nested host.nullable host =
      mapper.referenceAs nested host.nullable host) :
    (mapper.withSource source).referencesAll nested hosts = mapper.referencesAll nested hosts := by
  induction hosts with
  | nil => rw [referencesAll, referencesAll]
  | cons host rest ih =>
    rw [List.forall_mem_cons] at each
    rw [referencesAll, referencesAll, each.1, ih each.2]

/-- The form of a type in place loads no members if the references to its parts load none. -/
theorem inPlace_withSource_of_parts {host : Host Loader}
    (each : ∀ part ∈ host.parts, ∀ own nullable,
      (mapper.withSource source).referenceAs nested nullable (part.asNullable own) =
        mapper.referenceAs nested nullable (part.asNullable own)) :
    (mapper.withSource source).inPlace nested host = mapper.inPlace nested host := by
  have place : ∀ part ∈ host.parts,
      (mapper.withSource source).referenceAs nested part.nullable part =
        mapper.referenceAs nested part.nullable part := by
    intro part member
    have place := each part member part.nullable part.nullable
    rwa [Host.asNullable_nullable] at place
  rw [inPlace_eq, inPlace_eq]
  cases shape : host.kind with
  | sequence =>
    cases found : host.element with
    | none => rfl
    | some element =>
      have inside : element ∈ host.parts := by simp [Host.parts_sequence shape found]
      simp only [place element inside]
  | mapping =>
    rcases keyed : host.key with _ | key <;> rcases valued : host.value with _ | value <;>
      try rfl
    have parts := Host.parts_mapping shape keyed valued
    have first : key.asNullable false ∈ host.parts := by simp [parts]
    have second : value ∈ host.parts := by simp [parts]
    have keyPlace := each _ first key.nullable false
    rw [Host.asNullable_asNullable, Host.asNullable_nullable] at keyPlace
    simp only [keyPlace, place value second]
  | union =>
    rw [Host.parts_union shape] at place
    cases listed : host.options with
    | nil => rfl
    | cons option others =>
      rw [listed, List.forall_mem_cons] at place
      simp only [place.1, referencesAll_withSource source place.2]
  | _ => rfl

/-- A reference loads no members. -/
theorem referenceAs_withSource (host : Host Loader) (own nullable : Bool) :
    (mapper.withSource source).referenceAs nested nullable (host.asNullable own) =
      mapper.referenceAs nested nullable (host.asNullable own) := by
  induction host using Host.induction generalizing own nullable with
  | step host ih =>
    have form : (mapper.withSource source).inPlace nested (host.asNullable own) =
        mapper.inPlace nested (host.asNullable own) := inPlace_withSource_of_parts source ih
    rw [referenceAs_eq, referenceAs_eq, form]
    rfl

theorem referenceWithin_withSource (depth : Nat) :
    (mapper.withSource source).referenceWithin depth = mapper.referenceWithin depth := by
  induction depth with
  | zero => rfl
  | succ depth ih =>
    funext host
    have place : (mapper.withSource source).referenceAs (mapper.referenceWithin depth)
        host.nullable (host.asNullable host.nullable) =
          mapper.referenceAs (mapper.referenceWithin depth) host.nullable
            (host.asNullable host.nullable) :=
      referenceAs_withSource source host host.nullable host.nullable
    rw [Host.asNullable_nullable] at place
    rw [referenceWithin, referenceWithin, ih, place]

theorem reference_withSource : (mapper.withSource source).reference = mapper.reference := by
  funext host
  rw [reference, reference, referenceWithin_withSource]

/-- Properties load no members of the types that they have. -/
theorem properties_withSource (members : List (HostMember Loader)) :
    (mapper.withSource source).properties members = mapper.properties members := by
  induction members with
  | nil => rfl
  | cons member rest ih =>
    rw [properties, properties, ih, reference_withSource]
    rfl

/-- Mapping a type loads the members of that type only, and only if it is an object. -/
theorem mapType_withSource {host : Host Loader}
    (same : host.kind = .object → host.members source = host.members mapper.source) :
    (mapper.withSource source).mapType host = mapper.mapType host := by
  have form : (mapper.withSource source).inPlace mapper.reference host =
      mapper.inPlace mapper.reference host :=
    inPlace_withSource_of_parts source fun part _ => referenceAs_withSource source part
  rw [mapType, mapType, reference_withSource]
  refine congrArg (mapper.ask mapper.reference host >>= ·) (funext fun claim => ?_)
  cases claim with
  | some claim => rfl
  | none =>
    simp only
    cases kind : host.kind with
    | object =>
      have loaded : host.members (mapper.withSource source).source = host.members mapper.source :=
        same kind
      simp only [interface, loaded, properties_withSource]
    | enumeration => rfl
    | date => rfl
    | _ => simp only [form]

end TypeContracts.Mapper
