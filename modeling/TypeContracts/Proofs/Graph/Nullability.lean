import TypeContracts.Proofs.Graph.Builder
import TypeContracts.Proofs.Graph.Parallel
import TypeContracts.Proofs.Graph.Script
import TypeContracts.Proofs.Graph.Discovery

/-!
# The nullability modes describe one graph

Under a global alias a nullable reference is written by applying the alias, and the alias is
declared where it is first used. Writing out every application of the alias, and leaving its
declaration out, turns what is written with the alias into what is written without
(`TypeRef.expand`, `Builder.expand`).

Walks that differ in the mode only run in parallel along this translation, because the alias
takes no name from an instantiation and its identity is that of no other type
(`Graph.walk_nullability`).
-/

set_option autoImplicit false

namespace TypeContracts

open MappingM Mapping

/-! ## Writing out the alias -/

/-- How a nullable reference is written. -/
def Nullability.write : Nullability → TypeRef → TypeRef
  | .plain, reference => reference
  | .explicit, reference => .union [reference, .null]
  | .globalAlias, reference => .generic (.declared nullableIdentity) [reference]

namespace TypeRef

/-- The reference is to the alias for nullable types. -/
def isAlias : TypeRef → Bool
  | .declared identity => identity == nullableIdentity
  | _ => false

end TypeRef

mutual

/-- The reference with the alias for nullable types written out in the given way, wherever it
is applied to one argument. -/
def TypeRef.expand (mode : Nullability) : TypeRef → TypeRef
  | .array element => .array (element.expand mode)
  | .union options => .union (TypeRef.expandAll mode options)
  | .intersection parts => .intersection (TypeRef.expandAll mode parts)
  | .generic base arguments =>
    if base.isAlias then
      match TypeRef.expandAll mode arguments with
      | [inner] => mode.write inner
      | several => .generic base several
    else .generic (base.expand mode) (TypeRef.expandAll mode arguments)
  | .object members => .object (Member.expandAll mode members)
  | .builtin name => .builtin name
  | .declared identity => .declared identity
  | .imported name path => .imported name path
  | .textLiteral value => .textLiteral value
  | .numberLiteral value => .numberLiteral value
  | .parameter name => .parameter name
  | .stray value => .stray value

/-- Several references with the alias written out. -/
def TypeRef.expandAll (mode : Nullability) : List TypeRef → List TypeRef
  | [] => []
  | reference :: rest => reference.expand mode :: TypeRef.expandAll mode rest

/-- A member with the alias written out. -/
def Member.expand (mode : Nullability) : Member → Member
  | .property name type isOptional isReadonly =>
    .property name (type.expand mode) isOptional isReadonly
  | .index keyName key value => .index keyName (key.expand mode) (value.expand mode)
  | .getter argumentName argument result isOptional =>
    .getter argumentName (argument.expand mode) (result.expand mode) isOptional
  | .stray value => .stray value

/-- Several members with the alias written out. -/
def Member.expandAll (mode : Nullability) : List Member → List Member
  | [] => []
  | member :: rest => member.expand mode :: Member.expandAll mode rest

end

/-- A declaration with the alias written out. -/
def Declaration.expand (mode : Nullability) : Declaration → Declaration
  | .interface identity name members => .interface identity name (Member.expandAll mode members)
  | .alias identity name aliased parameters =>
    .alias identity name (aliased.expand mode) parameters
  | .enumeration identity name entries => .enumeration identity name entries

variable {Handle Loader : Type} {mode : Nullability}

@[simp] theorem Declaration.identity_expand (declaration : Declaration) :
    (declaration.expand mode).identity = declaration.identity := by
  cases declaration <;> rfl

@[simp] theorem Declaration.name_expand (declaration : Declaration) :
    (declaration.expand mode).name = declaration.name := by
  cases declaration <;> rfl

theorem Declaration.expand_rename (name : String) (declaration : Declaration) :
    (declaration.rename name).expand mode = (declaration.expand mode).rename name := by
  cases declaration <;> rfl

namespace Mapping

/-- Text literals are written without the alias. -/
theorem expandAll_textLiterals (values : List String) :
    TypeRef.expandAll mode (values.map TypeRef.textLiteral) = values.map TypeRef.textLiteral := by
  induction values with
  | nil => rfl
  | cons value rest ih => rw [List.map_cons, TypeRef.expandAll, ih, TypeRef.expand]

theorem expand_nameUnion (members : List EnumMember) :
    (nameUnion members).expand mode = nameUnion members := by
  rcases members with _ | ⟨first, _ | ⟨second, rest⟩⟩
  · rfl
  · rfl
  · have literals := @expandAll_textLiterals mode ((first :: second :: rest).map EnumMember.name)
    rw [List.map_map] at literals
    exact congrArg TypeRef.union literals

/-- Enumerations are declared without the alias. -/
theorem expand_enumeration (style : EnumStyle) (host : Host Loader) :
    (Mapping.enumeration style host).expand mode = Mapping.enumeration style host := by
  cases style with
  | numeric => rfl
  | stringUnion => rw [Mapping.enumeration, Declaration.expand, expand_nameUnion]

end Mapping

/-! ## Builders without the alias -/

namespace Builder

/-- The builder without the declaration of the alias, and with the alias written out. -/
def expand (mode : Nullability) (builder : Builder Loader) : Builder Loader :=
  { builder with
    cache := (builder.cache.filter fun entry => entry.1 != nullableIdentity).map fun entry =>
      (entry.1, entry.2.expand mode) }

theorem mem_keys_expand {builder : Builder Loader} {identity : Identity} :
    identity ∈ (builder.expand mode).keys ↔
      identity ∈ builder.keys ∧ identity ≠ nullableIdentity := by
  simp only [keys, expand, List.map_map, List.mem_map, List.mem_filter, bne_iff_ne,
    Function.comp_apply]
  constructor
  · rintro ⟨entry, ⟨member, other⟩, rfl⟩
    exact ⟨⟨entry, member, rfl⟩, other⟩
  · rintro ⟨⟨entry, member, rfl⟩, other⟩
    exact ⟨entry, ⟨member, other⟩, rfl⟩

/-- The alias apart, the same identities are declared. -/
theorem isCached_expand {builder : Builder Loader} {identity : Identity}
    (other : identity ≠ nullableIdentity) :
    (builder.expand mode).isCached identity = builder.isCached identity := by
  rw [Bool.eq_iff_iff, isCached_iff, isCached_iff, mem_keys_expand, and_iff_left other]

theorem require_expand {builder : Builder Loader} {host : Host Loader}
    (other : host.identity ≠ nullableIdentity) :
    (builder.expand mode).require host = (builder.require host).expand mode := by
  have waiting : (builder.expand mode).isPending host.identity =
      builder.isPending host.identity := rfl
  unfold require
  simp only [isCached_expand other, waiting]
  split_ifs <;> rfl

/-- A declaration other than the alias gets the same name. -/
theorem register_expand {builder : Builder Loader} {declaration : Declaration}
    (other : declaration.identity ≠ nullableIdentity) :
    (builder.expand mode).register (declaration.expand mode) =
      (builder.register declaration).expand mode := by
  have naming : (builder.expand mode).nameFor (declaration.expand mode) =
      builder.nameFor declaration := by
    simp only [nameFor, Declaration.identity_expand, Declaration.name_expand]
    rfl
  unfold register
  rw [Declaration.identity_expand, isCached_expand other, naming, Declaration.name_expand]
  by_cases cached : builder.isCached declaration.identity = true
  · rw [if_pos cached, if_pos cached]
  · rw [if_neg cached, if_neg cached]
    simp only [reportRenaming, Declaration.identity_expand, Declaration.name_expand]
    split_ifs <;>
      simp [expand, report, other, Declaration.expand_rename]

/-- The declaration of the alias leaves no trace. -/
theorem expand_register_alias (builder : Builder Loader) :
    (builder.register nullableAlias).expand mode = builder.expand mode := by
  unfold register
  by_cases cached : builder.isCached nullableAlias.identity = true
  · rw [if_pos cached]
  · rw [if_neg cached]
    simp [expand, reportRenaming, nameFor, nullableAlias, nullableIdentity, Declaration.identity,
      Declaration.name]

end Builder

/-! ## Walks in two modes -/

namespace Graph

/-- The options without what concerns nullability. -/
def withoutNullability (options : Options) : Options :=
  { options with explicitNullability := true, useGlobalNullable := false, nullabilityMode := none }

theorem eq_of_withoutNullability {options options' : Options}
    (same : withoutNullability options = withoutNullability options') :
    options.dateStyle = options'.dateStyle ∧ options.enumStyle = options'.enumStyle ∧
      options.optionalProperties = options'.optionalProperties := by
  simp only [withoutNullability, Options.mk.injEq] at same
  exact ⟨same.2.2.2.2.2.2.2.1, same.2.2.1, same.2.1⟩

/-- The builder of the other mode is the builder with the alias written out, and the queue has
types with the property only. -/
def Expanded (mode : Nullability) (property : Host Loader → Prop)
    (builder builder' : Builder Loader) : Prop :=
  builder' = builder.expand mode ∧ ∀ host ∈ builder.queue, property host

/-- The form is the same type in both modes, and the rules take it for the null type or for a
key of index signatures in both of them. -/
structure SameForm (mode : Nullability) (form form' : TypeRef) : Prop where
  expand : form' = form.expand mode
  isNull : form'.isNull = form.isNull
  isIndexKey : form'.isIndexKey = form.isIndexKey

variable {property : Host Loader → Prop}

theorem Expanded.modify {change : Builder Loader → Builder Loader}
    (change' : Builder Loader → Builder Loader) {builder builder' : Builder Loader}
    (expanded : Expanded mode property builder builder')
    (same : change' (builder.expand mode) = (change builder).expand mode)
    (queue : (change builder).queue = builder.queue) :
    Expanded mode property (change builder) (change' builder') := by
  obtain ⟨rfl, waiting⟩ := expanded
  exact ⟨same, queue ▸ waiting⟩

theorem Expanded.require {builder builder' : Builder Loader}
    (expanded : Expanded mode property builder builder') {host : Host Loader}
    (holds : property host) (other : host.identity ≠ nullableIdentity) :
    Expanded mode property (builder.require host) (builder'.require host) := by
  obtain ⟨rfl, waiting⟩ := expanded
  refine ⟨Builder.require_expand other, ?_⟩
  rcases Builder.require_spec host builder with ⟨_, same⟩ | ⟨_, _, added⟩
  · rwa [same]
  · rw [added, List.forall_mem_append, List.forall_mem_singleton]
    exact ⟨waiting, holds⟩

theorem Expanded.register {builder builder' : Builder Loader}
    (expanded : Expanded mode property builder builder') {declaration declaration' : Declaration}
    (same : declaration' = declaration.expand mode)
    (other : declaration.identity ≠ nullableIdentity) :
    Expanded mode property (builder.register declaration) (builder'.register declaration') := by
  subst same
  exact expanded.modify _ (Builder.register_expand other) (Builder.queue_register _ _)

theorem expandAll_of_forall₂ {references references' : List TypeRef}
    (same : List.Forall₂ (fun r r' => r' = r.expand mode) references references') :
    references' = TypeRef.expandAll mode references := by
  induction same with
  | nil => rfl
  | cons first _ ih => rw [first, ih, TypeRef.expandAll]

theorem expandAll_of_propertyAlike {members members' : List Member}
    (same : List.Forall₂ (Mapper.PropertyAlike fun r r' => r' = r.expand mode) members members') :
    members' = Member.expandAll mode members := by
  induction same with
  | nil => rfl
  | cons first _ ih =>
    cases first with
    | property name isOptional same => rw [same, ih, Member.expandAll, Member.expand]

/-- A mapping is written with the same kind of member in both modes. -/
theorem expand_keyedMember {key value key' value' : TypeRef} (keys : SameForm mode key key')
    (values : value' = value.expand mode) :
    (TypeRef.object [Mapper.keyedMember key value]).expand mode =
      .object [Mapper.keyedMember key' value'] := by
  rw [Mapper.keyedMember, Mapper.keyedMember, keys.isIndexKey]
  split_ifs <;>
    rw [TypeRef.expand, Member.expandAll, Member.expandAll, Member.expand, keys.expand, values]

variable {setting : Setting Handle Loader}

/-- The outcome of adding nullability when there is no alias. -/
theorem outcome_applyNullability {State : Type} {mapper : Mapper Loader State}
    (nullability : mapper.options.nullability = mode) (local' : mode ≠ .globalAlias)
    (reference : TypeRef) (nullable : Bool) (s : State) :
    outcome (mapper.applyNullability reference nullable) s =
      (.ok (if !nullable || reference.isNull then reference else mode.write reference), s) := by
  unfold Mapper.applyNullability
  split_ifs with plain
  · rfl
  · rw [nullability]
    cases mode with
    | plain => rfl
    | explicit => rfl
    | globalAlias => exact absurd rfl local'

/-- Adding nullability registers the alias in one mode and does nothing else in the other. -/
theorem simulates_applyNullability {mapper mapper' : Mapper Loader (Builder Loader)}
    (services : mapper.services = Builder.services)
    (global : mapper.options.nullability = .globalAlias)
    (nullability : mapper'.options.nullability = mode) (local' : mode ≠ .globalAlias)
    {form form' : TypeRef} (same : SameForm mode form form') (nullable : Bool) :
    Simulates (Expanded mode property) (fun r r' => r' = r.expand mode)
      (mapper.applyNullability form nullable) (mapper'.applyNullability form' nullable) := by
  intro s s' related
  rw [outcome_applyNullability nullability local', same.isNull]
  unfold Mapper.applyNullability
  split_ifs with plain
  · exact .ok same.expand related
  · simp only [global, Mapper.register, services]
    refine .ok ?_ (related.modify id (Builder.expand_register_alias s).symm
      (Builder.queue_register _ s))
    rw [same.expand]
    rfl

/-- Walks with and without the alias run in parallel. -/
theorem parallel_nullability {targets : List (String × HandWritten)}
    (pointed : setting.override.PointsTo targets) {roots : List Handle}
    (unreserved : ∀ host, Reachable setting targets roots host → host.identity ≠ nullableIdentity)
    (dates : setting.options.dateStyle = .branded → ∀ host, Reachable setting targets roots host →
      isClaimed targets host = false → host.kind = .date →
        host.fullName ≠ nullableIdentity.fullName)
    (global : setting.options.nullability = .globalAlias) {options : Options}
    (same : withoutNullability options = withoutNullability setting.options)
    (nullability : options.nullability = mode) (local' : mode ≠ .globalAlias) :
    Parallel targets (Reachable setting targets roots)
      (Expanded mode (Reachable setting targets roots)) (SameForm mode)
      (fun r r' => r' = r.expand mode) setting { setting with options := options } := by
  obtain ⟨dateStyle, enumStyle, optionalProperties⟩ := eq_of_withoutNullability same
  constructor
  case mapping =>
    constructor
    case pointed => exact pointed
    case override => rfl
    case source => rfl
    case dateStyle => exact dateStyle
    case enumStyle => exact enumStyle
    case optionalProperties => exact optionalProperties
    case closed => exact partsClosed_reachable
    case require =>
      intro host reached s s' related
      exact related.require reached (unreserved host reached)
    case branded =>
      intro host reached free kind style s s' related
      refine related.register rfl fun reserved => ?_
      exact dates style host reached free kind (congrArg Identity.fullName reserved)
    case report =>
      intro event s s' related
      exact related.modify _ rfl rfl
    case builtin => exact fun _ => ⟨rfl, rfl, rfl⟩
    case declared => exact fun _ => ⟨rfl, rfl, rfl⟩
    case imported => exact fun _ _ => ⟨rfl, rfl, rfl⟩
    case array =>
      rintro element _ rfl
      exact ⟨rfl, rfl, rfl⟩
    case union =>
      intro options options' same
      exact ⟨congrArg TypeRef.union (expandAll_of_forall₂ same), rfl, rfl⟩
    case keyed =>
      intro key key' value value' keys values
      exact ⟨(expand_keyedMember keys values).symm, rfl, rfl⟩
    case nullable =>
      intro form form' same own
      exact simulates_applyNullability rfl global nullability local' same own
  case describe => rfl
  case handed =>
    intro host reached free kind members loaded member listed
    exact .member reached free kind loaded listed
  case queue =>
    rintro s _ ⟨rfl, _⟩
    rfl
  case waiting => exact fun s s' related => related.2
  case cached =>
    rintro s _ ⟨rfl, _⟩ host reached
    exact Builder.isCached_expand (unreserved host reached)
  case dequeue =>
    rintro s _ ⟨rfl, waiting⟩ host rest queue
    rw [queue, List.forall_mem_cons] at waiting
    exact ⟨rfl, waiting.2⟩
  case interface =>
    intro host reached properties properties' same s s' related
    refine related.register ?_ (unreserved host reached)
    rw [Declaration.expand, expandAll_of_propertyAlike same]
  case enumeration =>
    intro host reached s s' related
    refine related.register (expand_enumeration _ host).symm ?_
    have own : (Mapping.enumeration setting.options.enumStyle host).identity = host.identity := by
      cases setting.options.enumStyle <;> rfl
    rw [own]
    exact unreserved host reached

/-- The outcome of a walk under other options. -/
def walkedUnder (setting : Setting Handle Loader) (options : Options) (limit : Nat)
    (roots : List Handle) : Except Fault Unit × Builder Loader :=
  outcome (walk { setting with options := options } limit roots) {}

/-- A walk without the alias ends as the walk with it does, and leaves the builder of that walk
with the alias written out. -/
theorem walk_expand {targets : List (String × HandWritten)}
    (pointed : setting.override.PointsTo targets) {roots : List Handle}
    (unreserved : ∀ host, Reachable setting targets roots host → host.identity ≠ nullableIdentity)
    (dates : setting.options.dateStyle = .branded → ∀ host, Reachable setting targets roots host →
      isClaimed targets host = false → host.kind = .date →
        host.fullName ≠ nullableIdentity.fullName)
    (global : setting.options.nullability = .globalAlias) {options : Options}
    (same : withoutNullability options = withoutNullability setting.options)
    (nullability : options.nullability = mode) (local' : mode ≠ .globalAlias) (limit : Nat) :
    (walkedUnder setting options limit roots).1 =
        (walkedUnder setting setting.options limit roots).1 ∧
      (walkedUnder setting options limit roots).2 =
        (walkedUnder setting setting.options limit roots).2.expand mode := by
  have parallel := parallel_nullability pointed unreserved dates global same nullability local'
  have ended : Alike _ _ (walkedUnder setting setting.options limit roots)
      (walkedUnder setting options limit roots) :=
    parallel.simulates_walk roots (fun handle listed host described => .root listed described)
      limit {} {} ⟨rfl, by simp⟩
  revert ended
  generalize walkedUnder setting setting.options limit roots = walked
  generalize walkedUnder setting options limit roots = walked'
  intro ended
  cases ended with
  | ok _ related => exact ⟨rfl, related.1⟩
  | error fault related => exact ⟨rfl, related.1⟩

/-- The three modes describe one graph. -/
theorem walk_nullability (setting : Setting Handle Loader) {targets : List (String × HandWritten)}
    (pointed : setting.override.PointsTo targets) (roots : List Handle)
    (unreserved : ∀ host, Reachable setting targets roots host → host.identity ≠ nullableIdentity)
    (dates : setting.options.dateStyle = .branded → ∀ host, Reachable setting targets roots host →
      isClaimed targets host = false → host.kind = .date →
        host.fullName ≠ nullableIdentity.fullName)
    (global : setting.options.nullability = .globalAlias) (explicit plain : Options)
    (sameExplicit : withoutNullability explicit = withoutNullability setting.options)
    (samePlain : withoutNullability plain = withoutNullability setting.options)
    (isExplicit : explicit.nullability = .explicit) (isPlain : plain.nullability = .plain)
    (limit : Nat) :
    (walkedUnder setting explicit limit roots).1 =
        (walkedUnder setting setting.options limit roots).1 ∧
      (walkedUnder setting plain limit roots).1 =
        (walkedUnder setting setting.options limit roots).1 ∧
      (walkedUnder setting explicit limit roots).2 =
        (walkedUnder setting setting.options limit roots).2.expand .explicit ∧
      (walkedUnder setting plain limit roots).2 =
        (walkedUnder setting setting.options limit roots).2.expand .plain := by
  obtain ⟨result, builder⟩ := walk_expand pointed unreserved dates global sameExplicit isExplicit
    nofun limit
  obtain ⟨result', builder'⟩ := walk_expand pointed unreserved dates global samePlain isPlain
    nofun limit
  exact ⟨result, result', builder, builder'⟩

/-- The options of the library with branded dates, in a mode. -/
def brandedOptions (mode : Nullability) : Options :=
  { nullabilityMode := some mode, dateStyle := .branded }

/-- The library is the same in all modes. -/
theorem walk_nullability_library :
    (walkedUnder library (brandedOptions .explicit) 10 [0]).1 =
        (walkedUnder library (brandedOptions .globalAlias) 10 [0]).1 ∧
      (walkedUnder library (brandedOptions .plain) 10 [0]).1 =
        (walkedUnder library (brandedOptions .globalAlias) 10 [0]).1 ∧
      (walkedUnder library (brandedOptions .explicit) 10 [0]).2 =
        (walkedUnder library (brandedOptions .globalAlias) 10 [0]).2.expand .explicit ∧
      (walkedUnder library (brandedOptions .plain) 10 [0]).2 =
        (walkedUnder library (brandedOptions .globalAlias) 10 [0]).2.expand .plain := by
  have same : ∀ host,
      Reachable { library with options := brandedOptions .globalAlias } [] [0] host →
        Reachable library [] [0] host := by
    intro host reached
    induction reached with
    | root listed described => exact .root listed described
    | part _ free inside ih => exact .part ih free inside
    | member _ free kind loaded listed ih => exact .member ih free kind loaded listed
  refine walk_nullability { library with options := brandedOptions .globalAlias }
    (.inl ⟨rfl, rfl⟩) [0] (fun host reached => coherent_library.unreserved host (same host reached))
    (fun _ host reached _ date => ?_) rfl (brandedOptions .explicit) (brandedOptions .plain)
    rfl rfl rfl rfl 10
  have inside := reachable_library (same host reached)
  simp only [List.mem_cons, List.not_mem_nil, or_false] at inside
  rcases inside with rfl | rfl | rfl | rfl <;> cases date

/-- Texts. -/
def word : Host Nat := { kind := .primitive, fullName := "builtins.str", name := "str" }

/-- A date of a type that has an argument and the full name of the alias. -/
def stamp : Host Nat :=
  { kind := .date, fullName := "contractgen.Nullable", name := "Nullable", arguments := [word] }

/-- A letter with an optional text and a date. -/
def letter : Host Nat := { kind := .object, fullName := "m.R", name := "R", loader := some 0 }

/-- A letter is described. -/
def post : Setting Nat Nat where
  options := brandedOptions .globalAlias
  override := .silent
  layout := Layout.perType none
  describe _ := .ok letter
  source _ := .ok [⟨"a", word.asNullable true⟩, ⟨"b", stamp⟩]

theorem reachable_post {host : Host Nat} (reached : Reachable post [] [0] host) :
    host ∈ [letter, word.asNullable true, stamp] := by
  induction reached with
  | root listed described =>
    cases described
    exact List.mem_cons_self
  | part reached free inside ih =>
    simp only [List.mem_cons, List.not_mem_nil, or_false] at ih
    rcases ih with rfl | rfl | rfl <;> cases inside
  | member reached free kind loaded listed ih =>
    simp only [List.mem_cons, List.not_mem_nil, or_false] at ih
    rcases ih with rfl | rfl | rfl
    · cases loaded
      simp only [List.mem_cons, List.not_mem_nil, or_false] at listed
      rcases listed with rfl | rfl <;> simp
    · cases kind
    · cases kind

/-- The letter with its members as they are written in a mode. -/
def letterDeclaration (mode : Nullability) : Declaration :=
  .interface letter.identity "R"
    [.property "a" (mode.write .string) true false,
      .property "b" (.declared nullableIdentity) false false]

/-- The demands of the letter: the alias, if the mode has one, and then the date. -/
def letterDemands (mode : Nullability) : List (Demand Nat) :=
  (if mode = .globalAlias then [.register nullableAlias] else []) ++ [.register (brandedDate stamp)]

set_option maxRecDepth 100000 in
theorem script_letter (mode : Nullability) :
    ({ post with options := brandedOptions mode } : Setting Nat Nat).mapper.script letter =
      (.ok (.declarations [letterDeclaration mode]), letterDemands mode) := by
  cases mode <;> cbv

/-- The builder when the letter has been mapped. -/
def posted (mode : Nullability) : Builder Nat :=
  (Builder.services.serveAll (letterDemands mode)
    { journal := [.mapping letter.identity] }).register (letterDeclaration mode)

/-- The letter is all that the walk maps. -/
theorem walkedUnder_post (mode : Nullability) :
    walkedUnder post (brandedOptions mode) 10 [0] = (.ok (), posted mode) := by
  have pointed : ({ post with options := brandedOptions mode } : Setting Nat Nat).override.PointsTo
      [] := .inl ⟨rfl, rfl⟩
  have cached : (posted mode).isCached letter.identity = true := by
    cases mode <;> decide +kernel
  have queue : (posted mode).queue = [] := by
    cases mode <;> rfl
  have mapped : outcome (mapHost { post with options := brandedOptions mode } letter) {} =
      (.ok (), posted mode) := by
    rw [outcome_mapHost pointed, scripted, script_letter]
    exact if_pos cached
  have start : (({} : Builder Nat).require letter).dequeue letter [] = {} := by
    simp [Builder.dequeue, Builder.require, Builder.isCached, Builder.isPending]
  rw [walkedUnder, walk, outcome_bind, show outcome (enqueueRoots _ [0]) {} =
    (.ok (), ({} : Builder Nat).require letter) from rfl]
  simp only
  have waiting : (({} : Builder Nat).require letter).queue = [letter] := rfl
  rw [outcome_drain_cons waiting, start, mapped]
  exact outcome_drain_nil queue 9

/-- A branded date is declared under its bare full name. One with the full name of the alias
takes the place of the alias, although no type has the identity of the alias. -/
theorem walk_nullability_post :
    post.override.PointsTo [] ∧
      (∀ host, Reachable post [] [0] host → host.identity ≠ nullableIdentity) ∧
      (walkedUnder post (brandedOptions .globalAlias) 10 [0]).1 = .ok () ∧
      (walkedUnder post (brandedOptions .explicit) 10 [0]).1 = .ok () ∧
      (walkedUnder post (brandedOptions .explicit) 10 [0]).2.keys ≠
        ((walkedUnder post (brandedOptions .globalAlias) 10 [0]).2.expand .explicit).keys := by
  rw [walkedUnder_post, walkedUnder_post]
  refine ⟨.inl ⟨rfl, rfl⟩, fun host reached => ?_, rfl, rfl, fun same => ?_⟩
  · have inside := reachable_post reached
    simp only [List.mem_cons, List.not_mem_nil, or_false] at inside
    rcases inside with rfl | rfl | rfl <;> decide +kernel
  · have declared : nullableIdentity ∈ (posted .explicit).keys := by decide +kernel
    exact (Builder.mem_keys_expand.mp (same ▸ declared)).2 rfl

end Graph

end TypeContracts
