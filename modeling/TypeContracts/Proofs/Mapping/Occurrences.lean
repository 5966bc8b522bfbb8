import Mathlib.Data.List.Basic
import TypeContracts.Proofs.Mapping.Rules

/-!
# What a mapping asks for

An override that points full names at hand-written types claims a type by its full name
alone. Under such an override a reference to a type asks for the declared types that its
form refers to, from left to right (`Mapping.occurrences`): it stops at a declared type, and
does not look into a claimed one. In between it registers nothing but the aliases for
nullable types and for dates (`Mapping.Requests`).

Mapping a type that has left the queue comes down to one of five cases (`Mapping.Maps`).
-/

set_option autoImplicit false

namespace TypeContracts

open MappingM

/-- The override points the given full names at hand-written types, and claims nothing
else. -/
def Override.PointsTo {Loader : Type} (override : Override Loader)
    (targets : List (String × HandWritten)) : Prop :=
  (override = .silent ∧ targets = []) ∨ override = .paths targets

namespace Mapping

variable {Loader State : Type} {targets : List (String × HandWritten)}

/-! ## Occurrences -/

/-- The type stands for a hand-written one. -/
def isClaimed (targets : List (String × HandWritten)) (host : Host Loader) : Bool :=
  (Override.target? targets host.fullName).isSome

/-- The declared types that a reference to a type asks for, from left to right. -/
def occurrences (targets : List (String × HandWritten)) (host : Host Loader) :
    List (Host Loader) :=
  if isClaimed targets host then []
  else if host.kind.isDeclared then [host]
  else host.parts.attach.flatMap fun part => occurrences targets part.1
termination_by sizeOf host
decreasing_by exact Host.sizeOf_lt_of_mem_parts part.2

/-- The occurrences of a type in place are those of its parts. -/
theorem occurrences_eq (targets : List (String × HandWritten)) (host : Host Loader) :
    occurrences targets host =
      if isClaimed targets host then []
      else if host.kind.isDeclared then [host]
      else host.parts.flatMap (occurrences targets) := by
  have attached : host.parts.attach.flatMap (fun part => occurrences targets part.1) =
      host.parts.flatMap (occurrences targets) := by
    rw [List.flatMap, List.flatMap, List.attach_map_val]
  rw [occurrences, attached]

/-- In a type that stands for a hand-written one nothing occurs. -/
theorem occurrences_of_claimed {host : Host Loader} (taken : isClaimed targets host = true) :
    occurrences targets host = [] := by
  rw [occurrences_eq, if_pos taken]

/-- A type with a declaration of its own occurs itself. -/
theorem occurrences_of_declared {host : Host Loader} (free : isClaimed targets host = false)
    (declared : host.kind.isDeclared = true) : occurrences targets host = [host] := by
  rw [occurrences_eq, if_neg (by rw [free]; decide), if_pos declared]

/-- In a type that is written in place, what occurs in its parts occurs. -/
theorem occurrences_of_plain {host : Host Loader} (free : isClaimed targets host = false)
    (plain : host.kind.isDeclared = false) :
    occurrences targets host = host.parts.flatMap (occurrences targets) := by
  rw [occurrences_eq, if_neg (by rw [free]; decide), if_neg (by rw [plain]; decide)]

/-- The declared types that a type asks for when it leaves the queue: those in the types of
its members, or those in its parts. -/
def successors (targets : List (String × HandWritten)) (source : MemberSource Loader)
    (host : Host Loader) : Except Fault (List (Host Loader)) :=
  if isClaimed targets host then .ok []
  else if host.kind = .object then
    (host.members source).map fun members =>
      members.flatMap fun member => occurrences targets member.type
  else .ok (host.parts.flatMap (occurrences targets))

section

variable {source : MemberSource Loader} {host : Host Loader}

/-- A type that stands for a hand-written one asks for nothing. -/
theorem successors_of_claimed (taken : isClaimed targets host = true) :
    successors targets source host = .ok [] := by
  rw [successors, if_pos taken]

/-- An object asks for what occurs in the types of its members. -/
theorem successors_of_object (free : isClaimed targets host = false) (kind : host.kind = .object)
    {members : List (HostMember Loader)} (loaded : host.members source = .ok members) :
    successors targets source host =
      .ok (members.flatMap fun member => occurrences targets member.type) := by
  rw [successors, if_neg (by rw [free]; decide), if_pos kind, loaded]
  rfl

/-- A type that is no object asks for what occurs in its parts. -/
theorem successors_of_ne_object (free : isClaimed targets host = false)
    (kind : host.kind ≠ .object) :
    successors targets source host = .ok (host.parts.flatMap (occurrences targets)) := by
  rw [successors, if_neg (by rw [free]; decide), if_neg kind]

/-- A type that is written in place asks for what occurs in its parts. -/
theorem successors_of_plain (free : isClaimed targets host = false)
    (plain : host.kind.isDeclared = false) :
    successors targets source host = .ok (host.parts.flatMap (occurrences targets)) := by
  refine successors_of_ne_object free fun kind => ?_
  rw [kind] at plain
  cases plain

/-- A type that is neither an object nor has parts asks for nothing. -/
theorem successors_of_parts_eq_nil (free : isClaimed targets host = false)
    (kind : host.kind ≠ .object) (alone : host.parts = []) :
    successors targets source host = .ok [] := by
  rw [successors_of_ne_object free kind, alone, List.flatMap_nil]

end

/-- A property that a type hands on to its parts. -/
def PartsClosed (targets : List (String × HandWritten)) (property : Host Loader → Prop) : Prop :=
  ∀ host part, property host → isClaimed targets host = false → part ∈ host.parts → property part

/-- What holds of a type and is handed on to parts holds of its occurrences. -/
theorem of_mem_occurrences {property : Host Loader → Prop} (closed : PartsClosed targets property)
    {host occurrence : Host Loader} (holds : property host)
    (member : occurrence ∈ occurrences targets host) :
    property occurrence ∧ isClaimed targets occurrence = false ∧
      occurrence.kind.isDeclared = true := by
  induction host using Host.induction with
  | step host ih =>
    rw [occurrences_eq] at member
    split_ifs at member with claimed declared
    · cases member
    · rw [List.mem_singleton.mp member]
      exact ⟨holds, by simpa using claimed, declared⟩
    · obtain ⟨part, inside, member⟩ := List.mem_flatMap.mp member
      exact ih part inside (closed host part holds (by simpa using claimed) inside) member

/-! ## Requests -/

/-- An alias that a reference may register. -/
inductive Synthesized (options : Options) (targets : List (String × HandWritten))
    (property : Host Loader → Prop) : Declaration → Prop where
  | nullable {host : Host Loader} (holds : property host) (optional : host.nullable = true)
    (mode : options.nullability = .globalAlias) : Synthesized options targets property nullableAlias
  | branded {host : Host Loader} (holds : property host) (free : isClaimed targets host = false)
    (dated : host.kind = .date) (style : options.dateStyle = .branded) :
    Synthesized options targets property (brandedDate host)

/-- The state is changed by requests for the given types, in their order, and by aliases
that are registered in between. -/
inductive Requests (services : Services Loader State) (options : Options)
    (targets : List (String × HandWritten)) (property : Host Loader → Prop) :
    List (Host Loader) → State → State → Prop where
  | done (s : State) : Requests services options targets property [] s s
  | require {host : Host Loader} {hosts : List (Host Loader)} {s t : State}
    (rest : Requests services options targets property hosts (services.require host s) t) :
    Requests services options targets property (host :: hosts) s t
  | register {declaration : Declaration} {hosts : List (Host Loader)} {s t : State}
    (synthesized : Synthesized options targets property declaration)
    (rest : Requests services options targets property hosts (services.register declaration s) t) :
    Requests services options targets property hosts s t

variable {services : Services Loader State} {options : Options} {property : Host Loader → Prop}

theorem Requests.append {first second : List (Host Loader)} {s t u : State}
    (before : Requests services options targets property first s t)
    (after : Requests services options targets property second t u) :
    Requests services options targets property (first ++ second) s u := by
  induction before with
  | done s => exact after
  | require rest ih => exact .require (ih after)
  | register synthesized rest ih => exact .register synthesized (ih after)

end Mapping

namespace Mapper

open Mapping

variable {Loader State : Type} {mapper : Mapper Loader State}
  {targets : List (String × HandWritten)} {property : Host Loader → Prop}
  {nested : Host Loader → MappingM State TypeRef}

/-- The step asks for the given types whenever it succeeds. -/
def Asks (mapper : Mapper Loader State) (targets : List (String × HandWritten))
    (property : Host Loader → Prop) {α : Type} (step : MappingM State α)
    (hosts : List (Host Loader)) : Prop :=
  ∀ ⦃result s t⦄, outcome step s = (.ok result, t) →
    Requests mapper.services mapper.options targets property hosts s t

section

variable {α β : Type}

theorem asks_pure (value : α) :
    mapper.Asks targets property (pure value : MappingM State α) [] := by
  intro result s t done
  cases done
  exact .done _

theorem asks_throw (fault : Fault) (hosts : List (Host Loader)) :
    mapper.Asks targets property (throw fault : MappingM State α) hosts := by
  intro result s t done
  cases done

theorem Asks.bind {step : MappingM State α} {next : α → MappingM State β}
    {first second : List (Host Loader)} (before : mapper.Asks targets property step first)
    (after : ∀ value, mapper.Asks targets property (next value) second) :
    mapper.Asks targets property (step >>= next) (first ++ second) := by
  intro result s u done
  obtain ⟨value, t, early, late⟩ := outcome_bind_eq_ok.mp done
  exact (before early).append (after value late)

/-- A step followed by one that asks for nothing. -/
theorem Asks.bind_quiet {step : MappingM State α} {next : α → MappingM State β}
    {hosts : List (Host Loader)} (before : mapper.Asks targets property step hosts)
    (after : ∀ value, mapper.Asks targets property (next value) []) :
    mapper.Asks targets property (step >>= next) hosts :=
  List.append_nil hosts ▸ before.bind after

end

/-- An override that only points at hand-written types answers at once. -/
theorem outcome_ask (pointed : mapper.override.PointsTo targets) (host : Host Loader) (s : State) :
    outcome (mapper.ask nested host) s =
      (.ok ((Override.target? targets host.fullName).map fun written =>
        .reference (.imported written.name written.path)), s) := by
  rcases pointed with ⟨silent, rfl⟩ | paths
  · rw [ask, silent]
    rfl
  · rw [ask, paths]
    rfl

/-- Nullability asks for nothing, but may register its alias. -/
theorem asks_applyNullability {host : Host Loader} (holds : property host) (reference : TypeRef) :
    mapper.Asks targets property (mapper.applyNullability reference host.nullable) [] := by
  intro result s t done
  unfold applyNullability at done
  split_ifs at done with plain
  · cases done
    exact .done s
  · have optional : host.nullable = true := by
      cases own : host.nullable with
      | true => rfl
      | false => simp [own] at plain
    split at done
    · cases done
      exact .done s
    · cases done
      exact .done s
    next mode =>
      cases done
      exact .register (.nullable holds optional mode) (.done _)

/-- What comes of a reference before its form in place is looked at: a claimed type gives a
reference at once, a declared one is asked for, and a branded date registers its alias. -/
theorem claimedReference_cases (pointed : mapper.override.PointsTo targets) {host : Host Loader}
    (holds : property host) {result : Option TypeRef} {s t : State}
    (done : outcome (mapper.claimedReference nested host) s = (.ok result, t)) :
    (result ≠ none ∧
        Requests mapper.services mapper.options targets property (occurrences targets host) s t) ∨
      (result = none ∧ t = s ∧ isClaimed targets host = false ∧
        host.kind.isDeclared = false) := by
  rw [claimedReference, outcome_bind, outcome_ask pointed] at done
  cases free : Override.target? targets host.fullName with
  | some written =>
    have claimed : isClaimed targets host = true := by rw [isClaimed, free]; rfl
    rw [free] at done
    cases done
    rw [occurrences_of_claimed claimed]
    exact .inl ⟨by simp, .done s⟩
  | none =>
    have claimed : isClaimed targets host = false := by rw [isClaimed, free]; rfl
    rw [free, Option.map_none] at done
    simp only at done
    split_ifs at done with declared dated
    · cases done
      rw [occurrences_of_declared claimed declared]
      exact .inl ⟨by simp, .require (.done _)⟩
    · obtain ⟨isDate, style⟩ : host.kind = .date ∧ mapper.options.dateStyle = .branded := by
        simpa using dated
      cases done
      have leaf : host.parts = [] := by rw [Host.parts, isDate]
      rw [occurrences_of_plain claimed (by simpa using declared), leaf]
      exact .inl ⟨by simp, .register (.branded holds claimed isDate style) (.done _)⟩
    · rw [askInline, outcome_bind, outcome_ask pointed, free, Option.map_none] at done
      cases done
      exact .inr ⟨rfl, rfl, claimed, by simpa using declared⟩

/-- A reference asks for the occurrences of its type, if the form in place asks for those of
the parts. -/
theorem asks_referenceAs_of_inPlace (pointed : mapper.override.PointsTo targets)
    {host : Host Loader} {nullable : Bool} (holds : property (host.asNullable nullable))
    (placed : isClaimed targets host = false → host.kind.isDeclared = false →
      mapper.Asks targets property (mapper.inPlace nested host)
        (host.parts.flatMap (occurrences targets))) :
    mapper.Asks targets property (mapper.referenceAs nested nullable host)
      (occurrences targets (host.asNullable nullable)) := by
  intro result s t done
  rw [referenceAs_eq, outcome_bind_eq_ok] at done
  obtain ⟨claimed, middle, asked, rest⟩ := done
  have nothing := List.append_nil (occurrences targets (host.asNullable nullable))
  rcases claimedReference_cases pointed holds asked with ⟨found, requests⟩ | ⟨rfl, rfl, free, plain⟩
  · obtain ⟨reference, rfl⟩ := Option.ne_none_iff_exists'.mp found
    exact nothing ▸ requests.append (asks_applyNullability holds reference rest)
  · have form : occurrences targets (host.asNullable nullable) =
        host.parts.flatMap (occurrences targets) := by
      rw [occurrences_of_plain free plain, Host.parts_asNullable]
    exact form ▸ (placed free plain).bind_quiet (asks_applyNullability holds) rest

/-- References to several types ask for the occurrences of all of them. -/
theorem asks_referencesAll {hosts : List (Host Loader)}
    (each : ∀ host ∈ hosts, mapper.Asks targets property
      (mapper.referenceAs nested host.nullable host) (occurrences targets host)) :
    mapper.Asks targets property (mapper.referencesAll nested hosts)
      (hosts.flatMap (occurrences targets)) := by
  induction hosts with
  | nil =>
    rw [referencesAll]
    exact asks_pure []
  | cons host rest ih =>
    rw [List.forall_mem_cons] at each
    rw [referencesAll, List.flatMap_cons]
    exact each.1.bind fun _ => (ih each.2).bind_quiet fun _ => asks_pure _

/-- The form of a type in place asks for the occurrences in its parts, if references to its
parts do so. -/
theorem asks_inPlace_of_parts {host : Host Loader} (plain : host.kind.isDeclared = false)
    (each : ∀ part ∈ host.parts, ∀ own, mapper.Asks targets property
      (mapper.referenceAs nested part.nullable (part.asNullable own)) (occurrences targets part)) :
    mapper.Asks targets property (mapper.inPlace nested host)
      (host.parts.flatMap (occurrences targets)) := by
  have place : ∀ part ∈ host.parts, mapper.Asks targets property
      (mapper.referenceAs nested part.nullable part) (occurrences targets part) := by
    intro part member
    have place := each part member part.nullable
    rwa [Host.asNullable_nullable] at place
  rw [inPlace_eq]
  cases shape : host.kind with
  | object => rw [shape] at plain; cases plain
  | enumeration => rw [shape] at plain; cases plain
  | date =>
    rw [Host.parts, shape]
    exact asks_pure _
  | primitive =>
    rw [Host.parts, shape]
    simp only
    cases Mapping.primitives.find? (fun entry => entry.1 == host.fullName) with
    | none => exact asks_throw _ _
    | some entry => exact asks_pure _
  | sequence =>
    simp only
    split
    next element found =>
      have parts := Host.parts_sequence shape found
      rw [parts, List.forall_mem_singleton] at place
      rw [parts, List.flatMap_singleton]
      exact place.bind_quiet fun _ => asks_pure _
    next => exact asks_throw _ _
  | mapping =>
    simp only
    split
    next key value keyed valued =>
      have parts := Host.parts_mapping shape keyed valued
      rw [parts, List.forall_mem_cons, List.forall_mem_singleton] at each place
      have keyPlace := each.1 key.nullable
      rw [Host.asNullable_asNullable, Host.asNullable_nullable] at keyPlace
      rw [parts, List.flatMap_cons, List.flatMap_singleton]
      exact keyPlace.bind fun _ => place.2.bind_quiet fun _ => asks_pure _
    next => exact asks_throw _ _
  | union =>
    simp only
    split
    next => exact asks_throw _ _
    next option others listed =>
      have parts : host.parts = option :: others := (Host.parts_union shape).trans listed
      rw [parts, List.forall_mem_cons] at place
      rw [parts, List.flatMap_cons]
      exact place.1.bind fun _ => (asks_referencesAll place.2).bind_quiet fun _ => asks_pure _

/-- A reference asks for the occurrences of its type. -/
theorem asks_referenceAs (pointed : mapper.override.PointsTo targets)
    (closed : PartsClosed targets property) (host : Host Loader) (own : Bool) {nullable : Bool}
    (holds : property (host.asNullable nullable)) :
    mapper.Asks targets property (mapper.referenceAs nested nullable (host.asNullable own))
      (occurrences targets (host.asNullable nullable)) := by
  induction host using Host.induction generalizing own nullable with
  | step host ih =>
    have same : property ((host.asNullable own).asNullable nullable) := holds
    refine asks_referenceAs_of_inPlace pointed same fun free plain =>
      asks_inPlace_of_parts plain fun part member own' => ?_
    have below : property (part.asNullable part.nullable) := by
      rw [Host.asNullable_nullable]
      exact closed _ part holds free member
    have place := ih part member own' below
    rwa [Host.asNullable_nullable] at place

/-- The form of a type in place asks for the occurrences in its parts. -/
theorem asks_inPlace (pointed : mapper.override.PointsTo targets)
    (closed : PartsClosed targets property) {host : Host Loader} (holds : property host)
    (free : isClaimed targets host = false) (plain : host.kind.isDeclared = false) :
    mapper.Asks targets property (mapper.inPlace nested host)
      (host.parts.flatMap (occurrences targets)) := by
  refine asks_inPlace_of_parts plain fun part member own => ?_
  have below : property (part.asNullable part.nullable) := by
    rw [Host.asNullable_nullable]
    exact closed host part holds free member
  have place : mapper.Asks targets property
      (mapper.referenceAs nested part.nullable (part.asNullable own))
      (occurrences targets (part.asNullable part.nullable)) :=
    asks_referenceAs pointed closed part own below
  rwa [Host.asNullable_nullable] at place

/-- The reference of a member asks for the occurrences of the type. -/
theorem asks_reference (pointed : mapper.override.PointsTo targets)
    (closed : PartsClosed targets property) {host : Host Loader} (holds : property host) :
    mapper.Asks targets property (mapper.reference host) (occurrences targets host) := by
  have same : property (host.asNullable host.nullable) := by rwa [Host.asNullable_nullable]
  have place : mapper.Asks targets property
      (mapper.referenceAs (mapper.referenceWithin (Mapping.nestingLimit - 1)) host.nullable
        (host.asNullable host.nullable))
      (occurrences targets (host.asNullable host.nullable)) :=
    asks_referenceAs pointed closed host host.nullable same
  rwa [Host.asNullable_nullable] at place

/-- Properties ask for the occurrences in the types of the members, in member order. -/
theorem asks_properties (pointed : mapper.override.PointsTo targets)
    (closed : PartsClosed targets property) {members : List (HostMember Loader)}
    (holds : ∀ member ∈ members, property member.type) :
    mapper.Asks targets property (mapper.properties members)
      (members.flatMap fun member => occurrences targets member.type) := by
  induction members with
  | nil => exact asks_pure []
  | cons member rest ih =>
    rw [List.forall_mem_cons] at holds
    rw [properties, List.flatMap_cons]
    exact (asks_reference pointed closed holds.1).bind fun _ => (ih holds.2).bind_quiet fun _ =>
      asks_pure _

/-! ## Leaving the queue -/

/-- How a type that leaves the queue is mapped, with what it asks for on the way. -/
inductive Maps (mapper : Mapper Loader State) (targets : List (String × HandWritten))
    (property : Host Loader → Prop) (host : Host Loader) (s : State) : Mapped → State → Prop where
  | claimed (reference : TypeRef) (taken : isClaimed targets host = true) :
    Maps mapper targets property host s (.inline reference)
      (mapper.services.report (.claimed host.identity) s)
  | object {found : List (Host Loader)} {t : State} (properties : List Member)
    (free : isClaimed targets host = false) (kind : host.kind = .object)
    (next : successors targets mapper.source host = .ok found)
    (asks : Requests mapper.services mapper.options targets property found s t) :
    Maps mapper targets property host s
      (.declarations [.interface host.identity host.declarationName properties]) t
  | enumeration (free : isClaimed targets host = false) (kind : host.kind = .enumeration) :
    Maps mapper targets property host s
      (.declarations [Mapping.enumeration mapper.options.enumStyle host]) s
  | date (free : isClaimed targets host = false) (kind : host.kind = .date)
    (style : mapper.options.dateStyle = .branded) :
    Maps mapper targets property host s (.declarations [brandedDate host]) s
  | inline {t : State} (reference : TypeRef) (free : isClaimed targets host = false)
    (plain : host.kind.isDeclared = false)
    (asks : Requests mapper.services mapper.options targets property
      (host.parts.flatMap (occurrences targets)) s t) :
    Maps mapper targets property host s (.inline reference) t

/-- Mapping a type is one of the cases. -/
theorem maps_of_mapType (pointed : mapper.override.PointsTo targets)
    (closed : PartsClosed targets property) {host : Host Loader} (holds : property host)
    (handed : isClaimed targets host = false → host.kind = .object →
      ∀ members, host.members mapper.source = .ok members →
        ∀ member ∈ members, property member.type)
    {mapped : Mapped} {s t : State}
    (done : outcome (mapper.mapType host) s = (.ok mapped, t)) :
    mapper.Maps targets property host s mapped t := by
  rw [mapType, outcome_bind, outcome_ask pointed] at done
  cases free : Override.target? targets host.fullName with
  | some written =>
    rw [free] at done
    cases done
    exact .claimed _ (by rw [isClaimed, free]; rfl)
  | none =>
    have unclaimed : isClaimed targets host = false := by rw [isClaimed, free]; rfl
    rw [free, Option.map_none] at done
    simp only at done
    cases kind : host.kind with
    | object =>
      rw [kind] at done
      simp only [outcome_bind_eq_ok] at done
      obtain ⟨declaration, middle, mapping, same⟩ := done
      cases same
      rw [interface, outcome_bind_eq_ok] at mapping
      obtain ⟨members, before, loaded, rest⟩ := mapping
      rw [outcome_bind_eq_ok] at rest
      obtain ⟨properties, after, asked, same⟩ := rest
      cases same
      cases found : host.members mapper.source with
      | error fault => rw [found] at loaded; cases loaded
      | ok members' =>
        rw [found] at loaded
        cases loaded
        exact .object properties unclaimed kind (successors_of_object unclaimed kind found)
          (asks_properties pointed closed (handed unclaimed kind _ found) asked)
    | enumeration =>
      rw [kind] at done
      cases done
      exact .enumeration unclaimed kind
    | date =>
      rw [kind] at done
      simp only at done
      split_ifs at done with style
      · cases done
        exact .date unclaimed kind style
      · cases done
        refine .inline _ unclaimed (by rw [kind]; rfl) ?_
        rw [Host.parts, kind]
        exact .done s
    | _ =>
      have plain : host.kind.isDeclared = false := by rw [kind]; rfl
      rw [kind] at done
      simp only [outcome_bind_eq_ok] at done
      obtain ⟨reference, middle, asked, same⟩ := done
      cases same
      exact .inline reference unclaimed plain
        (asks_inPlace pointed closed holds unclaimed plain asked)

end Mapper

end TypeContracts
