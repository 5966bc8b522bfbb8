import Mathlib.Data.List.Forall2
import TypeContracts.Proofs.Mapping.Occurrences
import TypeContracts.Proofs.Mapping.Simulation

/-!
# Two mappings side by side

Two sets of mapping rules may differ in the states that they act on and in how they write
nullable references. They run in parallel when their services keep a relation of the states,
and their references stay related whatever they are put into (`Mapper.Parallel`). The form of a
type without its nullability is compared by a relation of its own: that decides whether the null
type is made nullable again and whether a key makes an index signature.

Then the mapping of a type by one set of rules simulates that by the other
(`Mapper.simulates_mapType`). As in the rules themselves, the proof follows the shape of the
type and comes down to its parts.
-/

set_option autoImplicit false

namespace TypeContracts

open MappingM Mapping

namespace Mapper

variable {Loader State State' : Type}

/-- The rules act alike on related states, as far as types with the property are concerned. -/
structure Parallel (targets : List (String × HandWritten)) (property : Host Loader → Prop)
    (states : State → State' → Prop) (forms references : TypeRef → TypeRef → Prop)
    (mapper : Mapper Loader State) (mapper' : Mapper Loader State') : Prop where
  pointed : mapper.override.PointsTo targets
  override : mapper'.override = mapper.override
  source : mapper'.source = mapper.source
  dateStyle : mapper'.options.dateStyle = mapper.options.dateStyle
  enumStyle : mapper'.options.enumStyle = mapper.options.enumStyle
  optionalProperties :
    mapper'.options.optionalProperties = mapper.options.optionalProperties
  closed : PartsClosed targets property
  require : ∀ host, property host → ∀ s s', states s s' →
    states (mapper.services.require host s) (mapper'.services.require host s')
  branded : ∀ host, property host → isClaimed targets host = false → host.kind = .date →
    mapper.options.dateStyle = .branded → ∀ s s', states s s' →
      states (mapper.services.register (brandedDate host) s)
        (mapper'.services.register (brandedDate host) s')
  report : ∀ event s s', states s s' →
    states (mapper.services.report event s) (mapper'.services.report event s')
  builtin : ∀ name, forms (.builtin name) (.builtin name)
  declared : ∀ identity, forms (.declared identity) (.declared identity)
  imported : ∀ name path, forms (.imported name path) (.imported name path)
  array : ∀ element element', references element element' →
    forms (.array element) (.array element')
  union : ∀ options options', List.Forall₂ references options options' →
    forms (.union options) (.union options')
  keyed : ∀ key key' value value', forms key key' → references value value' →
    forms (.object [keyedMember key value]) (.object [keyedMember key' value'])
  nullable : ∀ form form', forms form form' → ∀ own,
    Simulates states references (mapper.applyNullability form own)
      (mapper'.applyNullability form' own)

/-- A primitive is a built-in type. -/
theorem exists_builtin_of_mem_primitives {entry : String × TypeRef}
    (member : entry ∈ Mapping.primitives) : ∃ name, entry.2 = .builtin name := by
  simp only [Mapping.primitives, List.mem_cons, List.not_mem_nil, or_false] at member
  rcases member with rfl | rfl | rfl | rfl | rfl | rfl | rfl | rfl | rfl | rfl | rfl <;>
    exact ⟨_, rfl⟩

/-- Two properties that differ in their types only, and these are related. -/
inductive PropertyAlike (references : TypeRef → TypeRef → Prop) : Member → Member → Prop where
  | property (name : String) {type type' : TypeRef} (isOptional : Bool)
    (same : references type type') :
    PropertyAlike references (.property name type isOptional false)
      (.property name type' isOptional false)

/-- What a type maps to by two sets of rules: interfaces with related properties, the same
enumeration or date, or related inline forms. -/
inductive MappedAlike (options : Options) (targets : List (String × HandWritten))
    (forms references : TypeRef → TypeRef → Prop) (host : Host Loader) :
    Mapped → Mapped → Prop where
  | interface {properties properties' : List Member}
    (same : List.Forall₂ (PropertyAlike references) properties properties') :
    MappedAlike options targets forms references host
      (.declarations [.interface host.identity host.declarationName properties])
      (.declarations [.interface host.identity host.declarationName properties'])
  | enumeration : MappedAlike options targets forms references host
      (.declarations [Mapping.enumeration options.enumStyle host])
      (.declarations [Mapping.enumeration options.enumStyle host])
  | date (free : isClaimed targets host = false) (kind : host.kind = .date)
    (style : options.dateStyle = .branded) :
    MappedAlike options targets forms references host (.declarations [brandedDate host])
      (.declarations [brandedDate host])
  | inline {form form' : TypeRef} (same : forms form form') :
    MappedAlike options targets forms references host (.inline form) (.inline form')

namespace Parallel

variable {targets : List (String × HandWritten)} {property : Host Loader → Prop}
  {states : State → State' → Prop} {forms references : TypeRef → TypeRef → Prop}
  {mapper : Mapper Loader State} {mapper' : Mapper Loader State'}
  {nested : Host Loader → MappingM State TypeRef} {nested' : Host Loader → MappingM State' TypeRef}
  (parallel : Parallel targets property states forms references mapper mapper')

include parallel

/-- Both rules get the same answer from their override at once. -/
theorem simulates_ask (host : Host Loader) :
    Simulates states (fun claim claim' => claim = claim' ∧ claim =
        (Override.target? targets host.fullName).map fun written =>
          .reference (.imported written.name written.path))
      (mapper.ask nested host) (mapper'.ask nested' host) := by
  have pointed' : mapper'.override.PointsTo targets := parallel.override ▸ parallel.pointed
  intro s s' related
  rw [outcome_ask parallel.pointed, outcome_ask pointed']
  exact .ok ⟨rfl, rfl⟩ related

theorem simulates_require {host : Host Loader} (holds : property host) :
    Simulates states forms (mapper.require host) (mapper'.require host) :=
  (simulates_modify (parallel.require host holds)).bind fun _ _ _ =>
    simulates_pure (parallel.declared _)

theorem simulates_branded {host : Host Loader} (holds : property host)
    (free : isClaimed targets host = false) (kind : host.kind = .date)
    (style : mapper.options.dateStyle = .branded) :
    Simulates states forms (mapper.register (brandedDate host))
      (mapper'.register (brandedDate host)) :=
  (simulates_modify (parallel.branded host holds free kind style)).bind fun _ _ _ =>
    simulates_pure (parallel.declared _)

/-- What comes of a reference before its form in place is looked at. Nothing is left only for
types that are written in place. -/
theorem simulates_claimedReference {host : Host Loader} (holds : property host) :
    Simulates states
      (fun claimed claimed' =>
        (∃ form form', claimed = some form ∧ claimed' = some form' ∧ forms form form') ∨
          (claimed = none ∧ claimed' = none ∧ isClaimed targets host = false ∧
            host.kind.isDeclared = false))
      (mapper.claimedReference nested host) (mapper'.claimedReference nested' host) := by
  refine (parallel.simulates_ask host).bind ?_
  rintro claim _ ⟨rfl, rfl⟩
  cases free : Override.target? targets host.fullName with
  | some written => exact simulates_pure (.inl ⟨_, _, rfl, rfl, parallel.imported _ _⟩)
  | none =>
    have unclaimed : isClaimed targets host = false := by rw [isClaimed, free]; rfl
    simp only [Option.map_none, parallel.dateStyle]
    split_ifs with declared dated
    · refine (parallel.simulates_require holds).bind ?_
      intro form form' same
      exact simulates_pure (.inl ⟨form, form', rfl, rfl, same⟩)
    · obtain ⟨kind, style⟩ : host.kind = .date ∧ mapper.options.dateStyle = .branded := by
        simpa using dated
      refine (parallel.simulates_branded holds unclaimed kind style).bind ?_
      intro form form' same
      exact simulates_pure (.inl ⟨form, form', rfl, rfl, same⟩)
    · refine (parallel.simulates_ask host).bind ?_
      rintro claim _ ⟨rfl, rfl⟩
      rw [free]
      exact simulates_pure (.inr ⟨rfl, rfl, unclaimed, by simpa using declared⟩)

/-- A reference is related as its form with nullability is, if the forms in place are
related. -/
theorem simulates_referenceAs_of_inPlace {host : Host Loader} {nullable : Bool}
    (holds : property (host.asNullable nullable))
    (placed : isClaimed targets host = false → host.kind.isDeclared = false →
      Simulates states forms (mapper.inPlace nested host) (mapper'.inPlace nested' host))
    {values : TypeRef → TypeRef → Prop}
    (after : ∀ form form', forms form form' → Simulates states values
      (mapper.applyNullability form nullable) (mapper'.applyNullability form' nullable)) :
    Simulates states values (mapper.referenceAs nested nullable host)
      (mapper'.referenceAs nested' nullable host) := by
  rw [referenceAs_eq, referenceAs_eq]
  refine (parallel.simulates_claimedReference holds).bind ?_
  rintro claimed claimed' (⟨form, form', rfl, rfl, same⟩ | ⟨rfl, rfl, free, plain⟩)
  · exact (simulates_pure same).bind after
  · exact (placed free plain).bind after

omit parallel in
/-- References to several types are related one by one. -/
theorem simulates_referencesAll {hosts : List (Host Loader)}
    (each : ∀ host ∈ hosts, Simulates states references
      (mapper.referenceAs nested host.nullable host)
      (mapper'.referenceAs nested' host.nullable host)) :
    Simulates states (List.Forall₂ references) (mapper.referencesAll nested hosts)
      (mapper'.referencesAll nested' hosts) := by
  induction hosts with
  | nil =>
    rw [referencesAll, referencesAll]
    exact simulates_pure .nil
  | cons host rest ih =>
    rw [List.forall_mem_cons] at each
    rw [referencesAll, referencesAll]
    refine each.1.bind fun _ _ first => (ih each.2).bind fun _ _ others => ?_
    exact simulates_pure (.cons first others)

/-- The forms of a type in place are related if references to its parts are. A key is not
nullable, so that its reference is its form. -/
theorem simulates_inPlace_of_parts {host : Host Loader} (plain : host.kind.isDeclared = false)
    (each : ∀ part ∈ host.parts, ∀ own (values : TypeRef → TypeRef → Prop),
      (∀ form form', forms form form' → Simulates states values
        (mapper.applyNullability form part.nullable)
        (mapper'.applyNullability form' part.nullable)) →
      Simulates states values (mapper.referenceAs nested part.nullable (part.asNullable own))
        (mapper'.referenceAs nested' part.nullable (part.asNullable own))) :
    Simulates states forms (mapper.inPlace nested host) (mapper'.inPlace nested' host) := by
  have place : ∀ part ∈ host.parts, Simulates states references
      (mapper.referenceAs nested part.nullable part)
      (mapper'.referenceAs nested' part.nullable part) := by
    intro part member
    have place := each part member part.nullable references fun form form' same =>
      parallel.nullable form form' same part.nullable
    rwa [Host.asNullable_nullable] at place
  rw [inPlace_eq, inPlace_eq]
  cases shape : host.kind with
  | object => rw [shape] at plain; cases plain
  | enumeration => rw [shape] at plain; cases plain
  | date => exact simulates_pure (parallel.builtin _)
  | primitive =>
    simp only
    cases found : Mapping.primitives.find? (fun entry => entry.1 == host.fullName) with
    | none => exact simulates_throw _
    | some entry =>
      obtain ⟨name, same⟩ := exists_builtin_of_mem_primitives (List.mem_of_find?_eq_some found)
      rw [Option.elim_some, Option.elim_some, same]
      exact simulates_pure (parallel.builtin name)
  | sequence =>
    simp only
    split
    next element found =>
      have parts := Host.parts_sequence shape found
      rw [parts, List.forall_mem_singleton] at place
      exact place.bind fun _ _ same => simulates_pure (parallel.array _ _ same)
    next => exact simulates_throw _
  | mapping =>
    simp only
    split
    next key value keyed valued =>
      have parts := Host.parts_mapping shape keyed valued
      rw [parts, List.forall_mem_cons, List.forall_mem_singleton] at each place
      have keyPlace := each.1 key.nullable forms fun _ _ same => simulates_pure same
      rw [Host.asNullable_asNullable, Host.asNullable_nullable] at keyPlace
      refine keyPlace.bind fun _ _ key => place.2.bind fun _ _ value => ?_
      exact simulates_pure (parallel.keyed _ _ _ _ key value)
    next => exact simulates_throw _
  | union =>
    simp only
    split
    next => exact simulates_throw _
    next option others listed =>
      have parts : host.parts = option :: others := (Host.parts_union shape).trans listed
      rw [parts, List.forall_mem_cons] at place
      refine place.1.bind fun _ _ first =>
        (simulates_referencesAll place.2).bind fun _ _ others => ?_
      exact simulates_pure (parallel.union _ _ (.cons first others))

/-- References to a type are related as its forms with nullability are. The induction is on
the parts of the type. -/
theorem simulates_referenceAs (host : Host Loader) (own : Bool) {nullable : Bool}
    (holds : property (host.asNullable nullable)) {values : TypeRef → TypeRef → Prop}
    (after : ∀ form form', forms form form' → Simulates states values
      (mapper.applyNullability form nullable) (mapper'.applyNullability form' nullable)) :
    Simulates states values (mapper.referenceAs nested nullable (host.asNullable own))
      (mapper'.referenceAs nested' nullable (host.asNullable own)) := by
  induction host using Host.induction generalizing own nullable values with
  | step host ih =>
    have same : property ((host.asNullable own).asNullable nullable) := holds
    refine parallel.simulates_referenceAs_of_inPlace same (fun free plain => ?_) after
    refine parallel.simulates_inPlace_of_parts plain fun part member own' values' after' => ?_
    have below : property (part.asNullable part.nullable) := by
      rw [Host.asNullable_nullable]
      exact parallel.closed _ part holds free member
    exact ih part member own' below after'

/-- The forms of a type in place are related. -/
theorem simulates_inPlace {host : Host Loader} (holds : property host)
    (free : isClaimed targets host = false) (plain : host.kind.isDeclared = false) :
    Simulates states forms (mapper.inPlace nested host) (mapper'.inPlace nested' host) := by
  refine parallel.simulates_inPlace_of_parts plain fun part member own values after => ?_
  have below : property (part.asNullable part.nullable) := by
    rw [Host.asNullable_nullable]
    exact parallel.closed host part holds free member
  exact parallel.simulates_referenceAs part own below after

/-- The references of members are related. -/
theorem simulates_reference {host : Host Loader} (holds : property host) :
    Simulates states references (mapper.reference host) (mapper'.reference host) := by
  have same : property (host.asNullable host.nullable) := by rwa [Host.asNullable_nullable]
  have place : Simulates states references
      (mapper.referenceAs (mapper.referenceWithin (Mapping.nestingLimit - 1)) host.nullable
        (host.asNullable host.nullable))
      (mapper'.referenceAs (mapper'.referenceWithin (Mapping.nestingLimit - 1)) host.nullable
        (host.asNullable host.nullable)) :=
    parallel.simulates_referenceAs host host.nullable same fun form form' related =>
      parallel.nullable form form' related host.nullable
  rwa [Host.asNullable_nullable] at place

/-- Properties are related one by one. -/
theorem simulates_properties {members : List (HostMember Loader)}
    (holds : ∀ member ∈ members, property member.type) :
    Simulates states (List.Forall₂ (PropertyAlike references)) (mapper.properties members)
      (mapper'.properties members) := by
  induction members with
  | nil => exact simulates_pure .nil
  | cons member rest ih =>
    rw [List.forall_mem_cons] at holds
    rw [properties, properties]
    refine (parallel.simulates_reference holds.1).bind fun _ _ first =>
      (ih holds.2).bind fun _ _ others => ?_
    rw [parallel.optionalProperties]
    exact simulates_pure (.cons (.property _ _ first) others)

/-- The mapping of a type by one set of rules simulates that by the other. -/
theorem simulates_mapType (host : Host Loader) (holds : property host)
    (handed : isClaimed targets host = false → host.kind = .object →
      ∀ members, host.members mapper.source = .ok members →
        ∀ member ∈ members, property member.type) :
    Simulates states (MappedAlike mapper.options targets forms references host)
      (mapper.mapType host) (mapper'.mapType host) := by
  rw [mapType, mapType]
  refine (parallel.simulates_ask host).bind ?_
  rintro claim _ ⟨rfl, rfl⟩
  cases free : Override.target? targets host.fullName with
  | some written =>
    refine (simulates_modify (parallel.report (.claimed host.identity))).bind fun _ _ _ => ?_
    exact simulates_pure (.inline (parallel.imported _ _))
  | none =>
    have unclaimed : isClaimed targets host = false := by rw [isClaimed, free]; rfl
    simp only [Option.map_none, parallel.enumStyle, parallel.dateStyle]
    cases kind : host.kind with
    | object =>
      refine Simulates.bind (R := fun d d' => MappedAlike mapper.options targets forms references
        host (.declarations [d]) (.declarations [d'])) ?_ fun _ _ same => simulates_pure same
      rw [interface, interface, parallel.source]
      cases found : host.members mapper.source with
      | error fault => exact fun _ _ related => .error fault related
      | ok members =>
        refine Simulates.bind (R := fun m m' => m = members ∧ m' = members)
          (simulates_pure ⟨rfl, rfl⟩) ?_
        rintro _ _ ⟨rfl, rfl⟩
        refine (parallel.simulates_properties (handed unclaimed kind _ found)).bind ?_
        intro properties properties' same
        exact simulates_pure (.interface same)
    | enumeration => exact simulates_pure .enumeration
    | date =>
      simp only
      split_ifs with style
      · exact simulates_pure (.date unclaimed kind style)
      · exact simulates_pure (.inline (parallel.builtin _))
    | _ =>
      have plain : host.kind.isDeclared = false := by rw [kind]; rfl
      exact (parallel.simulates_inPlace holds unclaimed plain).bind fun _ _ same =>
        simulates_pure (.inline same)

end Parallel

end Mapper

end TypeContracts
