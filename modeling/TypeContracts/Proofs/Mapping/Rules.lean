import Mathlib.Tactic.SplitIfs
import TypeContracts.Proofs.Host.Parts
import TypeContracts.Proofs.Mapping.Steps

/-!
# What the mapping rules keep

The rules change the state through the services alone. So every property of states that
the services keep is kept by the mapping of a type, for every override
(`Mapper.keeps_mapType`). The proof follows the shape of the type: what is written in place
asks for references to its parts, and these are written in place in turn.
-/

set_option autoImplicit false

namespace TypeContracts

/-- The services keep a property of states. -/
structure Services.Keep {Loader State : Type} (services : Services Loader State)
    (property : State → Prop) : Prop where
  require : ∀ host s, property s → property (services.require host s)
  register : ∀ declaration s, property s → property (services.register declaration s)
  report : ∀ event s, property s → property (services.report event s)

open MappingM

section

variable {Loader State : Type} {services : Services Loader State} {property : State → Prop}
  {nested : Host Loader → MappingM State TypeRef}

/-- An override keeps what the services and the references keep that it asks for. -/
theorem Request.keeps_run (kept : services.Keep property)
    (inner : ∀ host, Keeps property (nested host)) (request : Request Loader) :
    Keeps property (request.run services nested) := by
  induction request with
  | answer claim => exact keeps_pure claim
  | fail fault => exact keeps_throw fault
  | require host next ih => exact (keeps_modify (kept.require host)).bind fun _ => ih
  | register declaration next ih =>
    exact (keeps_modify (kept.register declaration)).bind fun _ => ih
  | reference host next ih =>
    -- The override goes on behind a reference that fails, too.
    exact fun s holds => ih ((nested host).run.run s).1 _ (inner host s holds)

end

namespace Mapper

variable {Loader State : Type} (mapper : Mapper Loader State)
  (nested : Host Loader → MappingM State TypeRef)

/-! ## The rules shape by shape -/

/-- The form in place, by the shape of the type. -/
theorem inPlace_eq (host : Host Loader) :
    mapper.inPlace nested host =
      match host.kind with
      | .date => return .string
      | .primitive =>
        (Mapping.primitives.find? fun entry => entry.1 == host.fullName).elim
          (throw (.unmappable host.identity.text .unknownPrimitive)) fun entry => return entry.2
      | .sequence =>
        match host.element with
        | some element => return .array (← mapper.referenceAs nested element.nullable element)
        | none => throw (.unmappable host.identity.text .noElement)
      | .mapping =>
        match host.key, host.value with
        | some key, some value => do
          let keyReference ← mapper.referenceAs nested false key
          let valueReference ← mapper.referenceAs nested value.nullable value
          return .object [keyedMember keyReference valueReference]
        | _, _ => throw (.unmappable host.identity.text .noKeyOrValue)
      | .union =>
        match host.options with
        | [] => throw (.unmappable host.identity.text .emptyUnion)
        | option :: others => do
          let first ← mapper.referenceAs nested option.nullable option
          return .union (first :: (← mapper.referencesAll nested others))
      | .object => mapper.require host
      | .enumeration => mapper.require host := by
  cases host with
  | mk kind fullName name arguments nullable element key value options enumMembers loader =>
    refine (inPlace.eq_def mapper nested _).trans ?_
    cases kind with
    | primitive =>
      simp only
      generalize List.find? (fun entry => entry.1 == fullName) Mapping.primitives = found
      cases found <;> rfl
    | sequence => cases element <;> rfl
    | mapping => cases key <;> cases value <;> rfl
    | union => cases options <;> rfl
    | _ => rfl

/-- A reference is what the override makes of the type or its form in place, and then its
nullability. -/
theorem referenceAs_eq (nullable : Bool) (host : Host Loader) :
    mapper.referenceAs nested nullable host = (do
      let plain ←
        match ← mapper.claimedReference nested (host.asNullable nullable) with
        | some reference => pure reference
        | none => mapper.inPlace nested host
      mapper.applyNullability plain nullable) := by
  cases host
  exact (referenceAs.eq_def mapper nested nullable _).trans rfl

/-! ## Properties that the rules keep -/

variable {mapper} {nested} {property : State → Prop}

theorem keeps_report (kept : mapper.services.Keep property) (event : Event) :
    Keeps property (mapper.report event) := keeps_modify (kept.report event)

theorem keeps_require (kept : mapper.services.Keep property) (host : Host Loader) :
    Keeps property (mapper.require host) :=
  (keeps_modify (kept.require host)).bind fun _ => keeps_pure _

theorem keeps_register (kept : mapper.services.Keep property) (declaration : Declaration) :
    Keeps property (mapper.register declaration) :=
  (keeps_modify (kept.register declaration)).bind fun _ => keeps_pure _

theorem keeps_applyNullability (kept : mapper.services.Keep property) (reference : TypeRef)
    (nullable : Bool) : Keeps property (mapper.applyNullability reference nullable) := by
  unfold applyNullability
  split_ifs
  · exact keeps_pure reference
  · split
    · exact keeps_pure reference
    · exact keeps_pure _
    · exact (keeps_register kept _).bind fun _ => keeps_pure _

theorem keeps_ask (kept : mapper.services.Keep property)
    (inner : ∀ host, Keeps property (nested host)) (host : Host Loader) :
    Keeps property (mapper.ask nested host) := Request.keeps_run kept inner _

theorem keeps_claimedReference (kept : mapper.services.Keep property)
    (inner : ∀ host, Keeps property (nested host)) (host : Host Loader) :
    Keeps property (mapper.claimedReference nested host) := by
  refine (keeps_ask kept inner host).bind fun claim => ?_
  rcases claim with _ | _ | _
  · simp only
    split_ifs
    · exact (keeps_require kept host).bind fun _ => keeps_pure _
    · exact (keeps_register kept _).bind fun _ => keeps_pure _
    · refine (keeps_ask kept inner host).bind fun claim => ?_
      rcases claim with _ | _ | _
      · exact keeps_pure none
      · exact (keeps_report kept _).bind fun _ => keeps_pure _
      · exact (keeps_report kept _).bind fun _ => keeps_throw _
  · exact keeps_pure _
  · exact (keeps_require kept host).bind fun _ => keeps_pure _

/-- A reference keeps what the form in place keeps. -/
theorem keeps_referenceAs (kept : mapper.services.Keep property)
    (inner : ∀ host, Keeps property (nested host)) {host : Host Loader}
    (placed : Keeps property (mapper.inPlace nested host)) (nullable : Bool) :
    Keeps property (mapper.referenceAs nested nullable host) := by
  rw [referenceAs_eq]
  refine (keeps_claimedReference kept inner _).bind fun claimed => ?_
  cases claimed with
  | some reference => exact (keeps_pure reference).bind fun _ => keeps_applyNullability kept _ _
  | none => exact placed.bind fun _ => keeps_applyNullability kept _ _

theorem keeps_referencesAll (kept : mapper.services.Keep property)
    (inner : ∀ host, Keeps property (nested host)) {hosts : List (Host Loader)}
    (placed : ∀ host ∈ hosts, Keeps property (mapper.inPlace nested host)) :
    Keeps property (mapper.referencesAll nested hosts) := by
  induction hosts with
  | nil =>
    rw [referencesAll]
    exact keeps_pure []
  | cons host rest ih =>
    rw [referencesAll]
    rw [List.forall_mem_cons] at placed
    exact (keeps_referenceAs kept inner placed.1 _).bind fun _ =>
      (ih placed.2).bind fun _ => keeps_pure _

/-- The nullability of a type plays no part in what its form in place keeps. -/
theorem keeps_inPlace_asNullable (kept : mapper.services.Keep property)
    (inner : ∀ host, Keeps property (nested host)) (host : Host Loader) (nullable : Bool) :
    Keeps property (mapper.inPlace nested (host.asNullable nullable)) := by
  induction host using Host.induction generalizing nullable with
  | step host ih =>
    have place : ∀ part ∈ host.parts, Keeps property (mapper.inPlace nested part) :=
      fun part member => part.asNullable_nullable ▸ ih part member part.nullable
    rw [inPlace_eq, Host.kind_asNullable]
    cases shape : host.kind with
    | date => exact keeps_pure _
    | primitive =>
      simp only
      cases Mapping.primitives.find? (fun entry => entry.1 == (host.asNullable nullable).fullName)
      · exact keeps_throw _
      · exact keeps_pure _
    | sequence =>
      simp only
      split
      next element found =>
        have part : element ∈ host.parts := by simp [Host.parts_sequence shape found]
        exact (keeps_referenceAs kept inner (place element part) _).bind fun _ => keeps_pure _
      next => exact keeps_throw _
    | mapping =>
      simp only
      split
      next key value keyed valued =>
        have parts := Host.parts_mapping shape keyed valued
        have keyed' := ih (key.asNullable false) (by simp [parts]) key.nullable
        rw [Host.asNullable_asNullable, Host.asNullable_nullable] at keyed'
        exact (keeps_referenceAs kept inner keyed' _).bind fun _ =>
          (keeps_referenceAs kept inner (place value (by simp [parts])) _).bind fun _ =>
            keeps_pure _
      next => exact keeps_throw _
    | union =>
      simp only
      split
      next => exact keeps_throw _
      next option others listed =>
        have parts : host.parts = option :: others := (Host.parts_union shape).trans listed
        rw [parts, List.forall_mem_cons] at place
        exact (keeps_referenceAs kept inner place.1 _).bind fun _ =>
          (keeps_referencesAll kept inner place.2).bind fun _ => keeps_pure _
    | object => exact keeps_require kept _
    | enumeration => exact keeps_require kept _

theorem keeps_inPlace (kept : mapper.services.Keep property)
    (inner : ∀ host, Keeps property (nested host)) (host : Host Loader) :
    Keeps property (mapper.inPlace nested host) :=
  host.asNullable_nullable ▸ keeps_inPlace_asNullable kept inner host host.nullable

theorem keeps_referenceWithin (kept : mapper.services.Keep property) (depth : Nat)
    (host : Host Loader) : Keeps property (mapper.referenceWithin depth host) := by
  induction depth generalizing host with
  | zero => exact keeps_throw _
  | succ depth ih => exact keeps_referenceAs kept ih (keeps_inPlace kept ih host) _

theorem keeps_properties (kept : mapper.services.Keep property)
    (members : List (HostMember Loader)) : Keeps property (mapper.properties members) := by
  induction members with
  | nil => exact keeps_pure []
  | cons member rest ih =>
    exact (keeps_referenceWithin kept _ member.type).bind fun _ => ih.bind fun _ => keeps_pure _

/-- Mapping a type keeps what the services keep. -/
theorem keeps_mapType (kept : mapper.services.Keep property) (host : Host Loader) :
    Keeps property (mapper.mapType host) := by
  have inner := keeps_referenceWithin kept Mapping.nestingLimit
  refine (keeps_ask kept inner host).bind fun claim => ?_
  rcases claim with _ | claim
  · simp only
    split
    · refine Keeps.bind ?_ fun _ => keeps_pure _
      refine Keeps.bind ?_ fun members => (keeps_properties kept members).bind fun _ =>
        keeps_pure _
      cases host.members mapper.source with
      | ok members => exact keeps_pure members
      | error fault => exact keeps_throw fault
    · exact keeps_pure _
    · split_ifs
      · exact keeps_pure _
      · exact keeps_pure _
    · exact (keeps_inPlace kept inner host).bind fun _ => keeps_pure _
  · refine (keeps_report kept _).bind fun _ => ?_
    cases claim with
    | declaration declaration => exact keeps_pure _
    | reference reference => exact keeps_pure _

end Mapper

end TypeContracts
