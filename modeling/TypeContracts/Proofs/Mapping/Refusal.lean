import TypeContracts.Proofs.Mapping.Rules

/-!
# What cannot be written in place

Without an override, a reference fails for one reason only when each type has the parts that its
shape needs (`Host.Complete`): somewhere in place stands a union without options (`Host.Blank`).
The types behind the declarations of objects and enumerations do not count. Mapping an object
fails for the types of its members in the same way (`Mapper.refuses_mapType_object`).
-/

set_option autoImplicit false

namespace TypeContracts

namespace Host

variable {Loader : Type}

/-- The type has the parts that its shape needs, and its primitives are known. -/
def hasParts (host : Host Loader) : Bool :=
  match host.kind with
  | .primitive => (Mapping.primitives.find? fun entry => entry.1 == host.fullName).isSome
  | .sequence => host.element.isSome
  | .mapping => host.key.isSome && host.value.isSome
  | _ => true

/-- Every type that is written in place has the parts that its shape needs. -/
inductive Complete : Host Loader → Prop
  | of {host : Host Loader} (whole : host.hasParts = true)
      (each : ∀ part ∈ host.parts, Complete part) : Complete host

/-- A union without options stands in place somewhere in the type. -/
inductive Blank : Host Loader → Prop
  | empty {host : Host Loader} (kind : host.kind = .union) (options : host.options = []) :
    Blank host
  | part {host part : Host Loader} (inside : part ∈ host.parts) (blank : Blank part) : Blank host

theorem blank_iff {host : Host Loader} :
    host.Blank ↔ (host.kind = .union ∧ host.options = []) ∨ ∃ part ∈ host.parts, part.Blank := by
  constructor
  · intro blank
    cases blank with
    | empty kind options => exact .inl ⟨kind, options⟩
    | part inside blank => exact .inr ⟨_, inside, blank⟩
  · rintro (⟨kind, options⟩ | ⟨part, inside, blank⟩)
    · exact .empty kind options
    · exact .part inside blank

@[simp] theorem blank_asNullable {host : Host Loader} (nullable : Bool) :
    (host.asNullable nullable).Blank ↔ host.Blank := by
  rw [blank_iff, blank_iff]
  rfl

theorem blank_iff_of_ne {host : Host Loader} (other : host.kind ≠ .union) :
    host.Blank ↔ ∃ part ∈ host.parts, part.Blank := by
  rw [blank_iff, or_iff_right fun empty => other empty.1]

/-- A type without parts is blank only if it is a union. -/
theorem not_blank_of_parts {host : Host Loader} (other : host.kind ≠ .union)
    (leaf : host.parts = []) : ¬host.Blank := by
  rw [blank_iff_of_ne other, leaf]
  simp

end Host

namespace MappingM

variable {State α β : Type} {p q : Prop}

/-- The step fails for an empty union if the condition holds, and succeeds otherwise. -/
def Refuses (step : MappingM State α) (condition : Prop) : Prop :=
  ∀ s, (condition → ∃ subject t, outcome step s = (.error (.unmappable subject .emptyUnion), t)) ∧
    (¬condition → ∃ value t, outcome step s = (.ok value, t))

theorem refuses_of_ok {step : MappingM State α}
    (succeeds : ∀ s, ∃ value t, outcome step s = (.ok value, t)) : Refuses step False :=
  fun s => ⟨False.elim, fun _ => succeeds s⟩

theorem refuses_pure (value : α) : Refuses (pure value : MappingM State α) False :=
  refuses_of_ok fun s => ⟨value, s, rfl⟩

theorem refuses_throw (subject : String) :
    Refuses (throw (.unmappable subject .emptyUnion) : MappingM State α) True :=
  fun s => ⟨fun _ => ⟨subject, s, rfl⟩, fun never => absurd trivial never⟩

theorem Refuses.congr {step : MappingM State α} (refuses : Refuses step p) (same : p ↔ q) :
    Refuses step q := fun s => by
  rw [← same]
  exact refuses s

theorem Refuses.bind {step : MappingM State α} {next : α → MappingM State β}
    (first : Refuses step p) (behind : ∀ value, Refuses (next value) q) :
    Refuses (step >>= next) (p ∨ q) := by
  intro s
  rw [outcome_bind]
  by_cases early : p
  · obtain ⟨subject, t, failed⟩ := (first s).1 early
    rw [failed]
    exact ⟨fun _ => ⟨subject, t, rfl⟩, fun never => absurd (.inl early) never⟩
  · obtain ⟨value, t, done⟩ := (first s).2 early
    rw [done, or_iff_right early]
    exact behind value t

/-- A step followed by one that never fails. -/
theorem Refuses.bind_quiet {step : MappingM State α} {next : α → MappingM State β}
    (first : Refuses step p) (behind : ∀ value, Refuses (next value) False) :
    Refuses (step >>= next) p := (first.bind behind).congr (by rw [or_false])

/-- The step fails in no other way. -/
theorem Refuses.unmappable_iff {step : MappingM State α} (refuses : Refuses step p) (s : State) :
    (∃ subject reason, (outcome step s).1 = .error (.unmappable subject reason)) ↔ p := by
  by_cases blank : p
  · obtain ⟨subject, t, failed⟩ := (refuses s).1 blank
    rw [failed]
    exact iff_of_true ⟨subject, _, rfl⟩ blank
  · obtain ⟨value, t, done⟩ := (refuses s).2 blank
    rw [done]
    exact iff_of_false nofun blank

end MappingM

open MappingM

namespace Mapper

variable {Loader State : Type} {mapper : Mapper Loader State}
  {nested : Host Loader → MappingM State TypeRef}

theorem refuses_applyNullability (reference : TypeRef) (nullable : Bool) :
    Refuses (mapper.applyNullability reference nullable) False := by
  refine refuses_of_ok fun s => ?_
  unfold applyNullability
  split_ifs
  · exact ⟨_, _, rfl⟩
  · split <;> exact ⟨_, _, rfl⟩

/-- References to several types are refused when one of them is. -/
theorem refuses_referencesAll {hosts : List (Host Loader)}
    (each : ∀ host ∈ hosts, Refuses (mapper.referenceAs nested host.nullable host) host.Blank) :
    Refuses (mapper.referencesAll nested hosts) (∃ host ∈ hosts, host.Blank) := by
  induction hosts with
  | nil =>
    rw [referencesAll]
    exact (refuses_pure _).congr (by simp)
  | cons host rest ih =>
    rw [List.forall_mem_cons] at each
    rw [referencesAll]
    exact (each.1.bind fun _ => (ih each.2).bind_quiet fun _ => refuses_pure _).congr (by simp)

/-- The form of a type in place is refused when one of the references to its parts is, or when it is
a union without options. -/
theorem refuses_inPlace_of_parts {host : Host Loader} (whole : host.hasParts = true)
    (plain : host.kind.isDeclared = false)
    (each : ∀ part ∈ host.parts, ∀ own nullable,
      Refuses (mapper.referenceAs nested nullable (part.asNullable own)) part.Blank) :
    Refuses (mapper.inPlace nested host) host.Blank := by
  have place : ∀ part ∈ host.parts,
      Refuses (mapper.referenceAs nested part.nullable part) part.Blank := by
    intro part member
    have place := each part member part.nullable part.nullable
    rwa [Host.asNullable_nullable] at place
  rw [Host.hasParts] at whole
  rw [inPlace_eq]
  cases shape : host.kind with
  | object => rw [shape] at plain; cases plain
  | enumeration => rw [shape] at plain; cases plain
  | date =>
    refine (refuses_pure _).congr (iff_of_false id (Host.not_blank_of_parts ?_ ?_))
    · rw [shape]
      decide
    · rw [Host.parts, shape]
  | primitive =>
    rw [shape] at whole
    obtain ⟨entry, found⟩ := Option.isSome_iff_exists.mp whole
    simp only [found, Option.elim_some]
    refine (refuses_pure _).congr (iff_of_false id (Host.not_blank_of_parts ?_ ?_))
    · rw [shape]
      decide
    · rw [Host.parts, shape]
  | sequence =>
    rw [shape] at whole
    obtain ⟨element, found⟩ := Option.isSome_iff_exists.mp whole
    have parts := Host.parts_sequence shape found
    rw [parts, List.forall_mem_singleton] at place
    have blank := Host.blank_iff_of_ne (show host.kind ≠ .union by rw [shape]; decide)
    rw [parts] at blank
    simp only [found]
    exact (place.bind_quiet fun _ => refuses_pure _).congr (by rw [blank]; simp)
  | mapping =>
    rw [shape, Bool.and_eq_true] at whole
    obtain ⟨key, keyed⟩ := Option.isSome_iff_exists.mp whole.1
    obtain ⟨value, valued⟩ := Option.isSome_iff_exists.mp whole.2
    have parts := Host.parts_mapping shape keyed valued
    rw [parts, List.forall_mem_cons, List.forall_mem_singleton] at each place
    have keyPlace := each.1 key.nullable false
    rw [Host.asNullable_asNullable, Host.asNullable_nullable, Host.blank_asNullable] at keyPlace
    have blank := Host.blank_iff_of_ne (show host.kind ≠ .union by rw [shape]; decide)
    rw [parts] at blank
    simp only [keyed, valued]
    exact (keyPlace.bind fun _ => place.2.bind_quiet fun _ => refuses_pure _).congr
      (by rw [blank]; simp)
  | union =>
    have parts := Host.parts_union shape
    rw [parts] at place
    rw [Host.blank_iff, parts]
    cases listed : host.options with
    | nil => exact (refuses_throw _).congr (by simp [shape])
    | cons option others =>
      rw [listed, List.forall_mem_cons] at place
      refine (place.1.bind fun _ => (refuses_referencesAll place.2).bind_quiet fun _ =>
        refuses_pure _).congr (by simp)

variable (silent : mapper.override = .silent)

include silent

theorem ask_silent (host : Host Loader) : mapper.ask nested host = pure none := by
  rw [ask, silent]
  rfl

/-- What stands for a type is its declaration, if it has one, or nothing. -/
theorem outcome_claimedReference (host : Host Loader) (s : State) :
    (∃ reference t, outcome (mapper.claimedReference nested host) s = (.ok (some reference), t) ∧
        ¬host.Blank) ∨
      (outcome (mapper.claimedReference nested host) s = (.ok none, s) ∧
        host.kind.isDeclared = false) := by
  rw [claimedReference, ask_silent silent, pure_bind]
  simp only
  split_ifs with declared dated
  · refine .inl ⟨_, _, rfl, Host.not_blank_of_parts ?_ ?_⟩
    · rintro kind
      rw [kind] at declared
      cases declared
    · rw [Host.parts]
      cases kind : host.kind <;> rw [kind] at declared <;> first | rfl | cases declared
  · obtain ⟨kind, _⟩ : host.kind = .date ∧ mapper.options.dateStyle = .branded := by
      simpa using dated
    refine .inl ⟨_, _, rfl, Host.not_blank_of_parts ?_ ?_⟩
    · rw [kind]
      decide
    · rw [Host.parts, kind]
  · refine .inr ⟨?_, by simpa using declared⟩
    rw [askInline, ask_silent silent, pure_bind]
    rfl

/-- A reference is refused when the form of the type in place is. -/
theorem refuses_referenceAs_of_inPlace {host : Host Loader} (nullable : Bool)
    (placed : host.kind.isDeclared = false → Refuses (mapper.inPlace nested host) host.Blank) :
    Refuses (mapper.referenceAs nested nullable host) host.Blank := by
  intro s
  rw [referenceAs_eq, outcome_bind]
  have claimed : (∃ reference t, outcome (mapper.claimedReference nested (host.asNullable nullable))
      s = (.ok (some reference), t) ∧ ¬(host.asNullable nullable).Blank) ∨ _ :=
    outcome_claimedReference silent (host.asNullable nullable) s
  rcases claimed with ⟨reference, t, found, sound⟩ | ⟨missing, plain⟩
  · rw [Host.blank_asNullable] at sound
    rw [found]
    exact ⟨fun blank => absurd blank sound,
      fun _ => (refuses_applyNullability reference nullable t).2 id⟩
  · rw [missing]
    exact (placed plain).bind_quiet (fun reference => refuses_applyNullability reference nullable) s

/-- A reference is refused exactly when an empty union stands in place in the type. -/
theorem refuses_referenceAs {host : Host Loader} (complete : host.Complete) (own nullable : Bool) :
    Refuses (mapper.referenceAs nested nullable (host.asNullable own)) host.Blank := by
  induction complete generalizing own nullable with
  | @of host whole each ih =>
    have form : Refuses (mapper.referenceAs nested nullable (host.asNullable own))
        (host.asNullable own).Blank :=
      refuses_referenceAs_of_inPlace silent nullable fun plain =>
        refuses_inPlace_of_parts whole plain fun part member own' nullable' =>
          ih part member own' nullable'
    rwa [Host.blank_asNullable] at form

theorem refuses_reference {host : Host Loader} (complete : host.Complete) :
    Refuses (mapper.reference host) host.Blank := by
  have place : Refuses (mapper.referenceAs (mapper.referenceWithin (Mapping.nestingLimit - 1))
      host.nullable (host.asNullable host.nullable)) host.Blank :=
    refuses_referenceAs silent complete host.nullable host.nullable
  rwa [Host.asNullable_nullable] at place

/-- Properties are refused when the type of a member is. -/
theorem refuses_properties {members : List (HostMember Loader)}
    (complete : ∀ member ∈ members, member.type.Complete) :
    Refuses (mapper.properties members) (∃ member ∈ members, member.type.Blank) := by
  induction members with
  | nil => exact (refuses_pure _).congr (by simp)
  | cons member rest ih =>
    rw [List.forall_mem_cons] at complete
    rw [properties]
    exact ((refuses_reference silent complete.1).bind fun _ => (ih complete.2).bind_quiet fun _ =>
      refuses_pure _).congr (by simp)

/-- Mapping a type that is no object is refused exactly when an empty union stands in place. -/
theorem refuses_mapType {host : Host Loader} (complete : host.Complete)
    (other : host.kind ≠ .object) : Refuses (mapper.mapType host) host.Blank := by
  have form : host.kind.isDeclared = false →
      Refuses (mapper.inPlace mapper.reference host) host.Blank := by
    intro plain
    cases complete with
    | of whole each =>
      exact refuses_inPlace_of_parts whole plain fun part member =>
        refuses_referenceAs silent (each part member)
  rw [mapType, ask_silent silent, pure_bind]
  simp only
  cases kind : host.kind with
  | object => exact absurd kind other
  | enumeration =>
    refine (refuses_pure _).congr (iff_of_false id (Host.not_blank_of_parts ?_ ?_))
    · rw [kind]
      decide
    · rw [Host.parts, kind]
  | date =>
    refine Refuses.congr (p := False) ?_ (iff_of_false id (Host.not_blank_of_parts ?_ ?_))
    · simp only
      split_ifs <;> exact refuses_pure _
    · rw [kind]
      decide
    · rw [Host.parts, kind]
  | _ => exact (form (by rw [kind]; rfl)).bind_quiet fun _ => refuses_pure _

/-- Mapping an object loads its members. If that fails, so does the mapping; otherwise it is refused
exactly when an empty union stands in place in the type of a member. -/
theorem refuses_mapType_object {host : Host Loader} (kind : host.kind = .object)
    {members : List (HostMember Loader)} (loaded : host.members mapper.source = .ok members)
    (complete : ∀ member ∈ members, member.type.Complete) :
    Refuses (mapper.mapType host) (∃ member ∈ members, member.type.Blank) := by
  rw [mapType, ask_silent silent, pure_bind]
  simp only [kind, interface, loaded]
  exact ((refuses_properties silent complete).bind_quiet fun _ => refuses_pure _).bind_quiet
    fun _ => refuses_pure _

theorem outcome_mapType_of_error {host : Host Loader} (kind : host.kind = .object) {fault : Fault}
    (failed : host.members mapper.source = .error fault) (s : State) :
    outcome (mapper.mapType host) s = (.error fault, s) := by
  rw [mapType, ask_silent silent, pure_bind]
  simp only [kind, interface, failed]
  rfl

end Mapper

end TypeContracts
