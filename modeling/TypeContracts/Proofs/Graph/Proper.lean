import TypeContracts.Proofs.Declaration.Proper
import TypeContracts.Proofs.Graph.Builder
import TypeContracts.Proofs.Graph.Parallel

/-!
# Walks declare proper trees

The mapping rules put together proper trees only, so a walk whose override points at
hand-written types at most has proper declarations in its cache (`Graph.proper_walk`). The
proof runs the walk beside itself.
-/

set_option autoImplicit false

namespace TypeContracts.Graph

open MappingM Mapping

variable {Handle Loader : Type}

/-- The two are the same proper reference. -/
def SameProper (reference reference' : TypeRef) : Prop :=
  reference' = reference ∧ reference.isProper = true

/-- The two are the same builder, with proper declarations. -/
def SameBuilder (builder builder' : Builder Loader) : Prop :=
  builder' = builder ∧ ∀ entry ∈ builder.cache, entry.2.isProper = true

theorem allProper_of_forall₂ {references references' : List TypeRef}
    (same : List.Forall₂ SameProper references references') :
    references' = references ∧ TypeRef.allProper references = true := by
  induction same with
  | nil => exact ⟨rfl, rfl⟩
  | cons first _ ih =>
    obtain ⟨rfl, proper⟩ := first
    obtain ⟨rfl, others⟩ := ih
    exact ⟨rfl, by rw [TypeRef.allProper, proper, others, Bool.and_self]⟩

theorem allProper_of_propertyAlike {members members' : List Member}
    (same : List.Forall₂ (Mapper.PropertyAlike SameProper) members members') :
    members' = members ∧ Member.allProper members = true := by
  induction same with
  | nil => exact ⟨rfl, rfl⟩
  | cons first _ ih =>
    cases first with
    | property name isOptional same =>
      obtain ⟨rfl, proper⟩ := same
      obtain ⟨rfl, others⟩ := ih
      exact ⟨rfl, by rw [Member.allProper, Member.isProper, proper, others, Bool.and_self]⟩

theorem isProper_keyedMember {key value : TypeRef} (keyed : key.isProper = true)
    (valued : value.isProper = true) :
    (TypeRef.object [Mapper.keyedMember key value]).isProper = true := by
  rw [Mapper.keyedMember]
  split_ifs <;> simp [TypeRef.isProper, Member.allProper, Member.isProper, keyed, valued]

theorem isProper_nameUnion (members : List EnumMember) : (nameUnion members).isProper = true := by
  have literals : ∀ values : List String,
      TypeRef.allProper (values.map TypeRef.textLiteral) = true := by
    intro values
    induction values with
    | nil => rfl
    | cons value rest ih => rw [List.map_cons, TypeRef.allProper, TypeRef.isProper, ih]; rfl
  rcases members with _ | ⟨first, _ | ⟨second, rest⟩⟩
  · rfl
  · rfl
  · have proper := literals ((first :: second :: rest).map EnumMember.name)
    rwa [List.map_map] at proper

theorem isProper_enumeration (style : EnumStyle) (host : Host Loader) :
    (Mapping.enumeration style host).isProper = true := by
  cases style with
  | numeric => rfl
  | stringUnion => exact isProper_nameUnion host.enumMembers

theorem SameBuilder.register {builder builder' : Builder Loader}
    (same : SameBuilder builder builder') {declaration : Declaration}
    (proper : declaration.isProper = true) :
    SameBuilder (builder.register declaration) (builder'.register declaration) := by
  obtain ⟨rfl, cache⟩ := same
  refine ⟨rfl, ?_⟩
  rcases Builder.register_spec declaration builder' with
    ⟨_, same⟩ | ⟨_, name, taken, journal, added⟩
  · rwa [same]
  · rw [added, List.forall_mem_append, List.forall_mem_singleton]
    exact ⟨cache, by rwa [Declaration.isProper_rename]⟩

theorem SameBuilder.require {builder builder' : Builder Loader}
    (same : SameBuilder builder builder') (host : Host Loader) :
    SameBuilder (builder.require host) (builder'.require host) := by
  obtain ⟨rfl, cache⟩ := same
  refine ⟨rfl, ?_⟩
  rcases Builder.require_spec host builder' with ⟨_, same⟩ | ⟨_, _, added⟩
  · rwa [same]
  · rwa [added]

/-- Adding nullability keeps references proper. -/
theorem simulates_applyNullability_proper {mapper : Mapper Loader (Builder Loader)}
    (services : mapper.services = Builder.services) {form form' : TypeRef}
    (same : SameProper form form') (nullable : Bool) :
    Simulates SameBuilder SameProper (mapper.applyNullability form nullable)
      (mapper.applyNullability form' nullable) := by
  obtain ⟨rfl, proper⟩ := same
  unfold Mapper.applyNullability
  split_ifs
  · exact simulates_pure ⟨rfl, proper⟩
  · cases mapper.options.nullability with
    | plain => exact simulates_pure ⟨rfl, proper⟩
    | explicit =>
      refine simulates_pure ⟨rfl, ?_⟩
      rw [TypeRef.isProper, TypeRef.allProper, proper]
      rfl
    | globalAlias =>
      refine Simulates.bind (R := fun r r' => r = .declared nullableIdentity ∧ r' = r) ?_ ?_
      · rw [Mapper.register, services]
        refine (simulates_modify fun s s' related => related.register (by decide)).bind ?_
        exact fun _ _ _ => simulates_pure ⟨rfl, rfl⟩
      · rintro _ _ ⟨rfl, rfl⟩
        refine simulates_pure ⟨rfl, ?_⟩
        rw [TypeRef.isProper, TypeRef.allProper, proper]
        rfl

variable {setting : Setting Handle Loader} {targets : List (String × HandWritten)}

/-- A walk runs beside itself on proper declarations. -/
theorem parallel_proper (pointed : setting.override.PointsTo targets) :
    Parallel targets (fun _ => True) SameBuilder SameProper SameProper setting setting := by
  constructor
  case mapping =>
    constructor
    case pointed => exact pointed
    case override => rfl
    case source => rfl
    case dateStyle => rfl
    case enumStyle => rfl
    case optionalProperties => rfl
    case closed => exact fun _ _ _ _ _ => trivial
    case require => exact fun host _ s s' related => related.require host
    case branded => exact fun host _ _ _ _ s s' related => related.register rfl
    case report =>
      rintro event s _ ⟨rfl, cache⟩
      exact ⟨rfl, cache⟩
    case builtin => exact fun _ => ⟨rfl, rfl⟩
    case declared => exact fun _ => ⟨rfl, rfl⟩
    case imported => exact fun _ _ => ⟨rfl, rfl⟩
    case array =>
      rintro element _ ⟨rfl, proper⟩
      exact ⟨rfl, proper⟩
    case union =>
      intro options options' same
      obtain ⟨rfl, proper⟩ := allProper_of_forall₂ same
      exact ⟨rfl, proper⟩
    case keyed =>
      rintro key _ value _ ⟨rfl, keyed⟩ ⟨rfl, valued⟩
      exact ⟨rfl, isProper_keyedMember keyed valued⟩
    case nullable =>
      intro form form' same own
      exact simulates_applyNullability_proper rfl same own
  case describe => rfl
  case handed => exact fun _ _ _ _ _ _ _ _ => trivial
  case queue =>
    rintro s _ ⟨rfl, _⟩
    rfl
  case waiting => exact fun _ _ _ _ _ => trivial
  case cached =>
    rintro s _ ⟨rfl, _⟩ host _
    rfl
  case dequeue =>
    rintro s _ ⟨rfl, cache⟩ host rest _
    exact ⟨rfl, cache⟩
  case interface =>
    intro host _ properties properties' same s s' related
    obtain ⟨rfl, proper⟩ := allProper_of_propertyAlike same
    exact related.register proper
  case enumeration =>
    exact fun host _ s s' related => related.register (isProper_enumeration _ host)

/-- All declarations of a walk are proper. -/
theorem proper_walk (pointed : setting.override.PointsTo targets) (limit : Nat)
    (roots : List Handle) :
    ∀ entry ∈ (outcome (walk setting limit roots) {}).2.cache, entry.2.isProper = true := by
  have ended := (parallel_proper pointed).simulates_walk roots
    (fun _ _ _ _ => trivial) limit {} {} ⟨rfl, by simp⟩
  revert ended
  generalize outcome (walk setting limit roots) {} = walked
  intro ended
  cases ended with
  | ok _ related => exact related.2
  | error fault related => exact related.2

end TypeContracts.Graph
