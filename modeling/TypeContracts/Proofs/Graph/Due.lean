import TypeContracts.Proofs.Graph.Reachable
import TypeContracts.Proofs.Graph.Script

/-!
# What the mapping of a type declares

Mapping a type registers declarations that depend on the type alone (`Graph.due`): its own, if
it has one, and the aliases that come up on the way (`Graph.IsDue`). Occurrences of the same
type have the same declarations due, and no two types have different declarations due for one
identity (`Graph.IsDue.eq`).

Only instantiations take names. When they are told apart by the names of their declarations, a
name that a declaration is due to get is never taken by another (`Graph.IsDue.bears`).
-/

set_option autoImplicit false

namespace TypeContracts

open MappingM Mapping

/-- The declaration that is registered on demand. -/
def Demand.declarations {Loader : Type} : Demand Loader → List Declaration
  | .register declaration => [declaration]
  | _ => []

namespace Graph

variable {Handle Loader State : Type} {setting : Setting Handle Loader}
  {targets : List (String × HandWritten)} {roots : List Handle}

/-- The declarations that a type is mapped to. -/
def mappedTo : Except Fault Mapped → List Declaration
  | .ok (.declarations declarations) => declarations
  | _ => []

/-- The declarations that mapping a type registers, in their order. -/
def due (setting : Setting Handle Loader) (host : Host Loader) : List Declaration :=
  (setting.mapper.script host).2.flatMap Demand.declarations ++
    mappedTo (setting.mapper.script host).1

/-- The type can be mapped. -/
def Mappable (setting : Setting Handle Loader) (host : Host Loader) : Prop :=
  ∃ mapped, (setting.mapper.script host).1 = .ok mapped

/-! ## Occurrences of the same type -/

namespace Agree

variable {source : MemberSource Loader} {a b : Host Loader}

theorem identity (same : Agree source a b) : a.identity = b.identity := by
  have shape := congrArg Host.identity same.1
  cases a
  cases b
  exact shape

theorem declarationName (same : Agree source a b) : a.declarationName = b.declarationName := by
  have shape := congrArg Host.declarationName same.1
  exact shape

theorem brandedDate (same : Agree source a b) :
    Mapping.brandedDate a = Mapping.brandedDate b := by
  have shape := congrArg Mapping.brandedDate same.1
  exact shape

theorem enumeration (same : Agree source a b) (style : EnumStyle) :
    Mapping.enumeration style a = Mapping.enumeration style b := by
  have members : a.enumMembers = b.enumMembers := by
    have shape := congrArg Host.enumMembers same.1
    exact shape
  simp only [Mapping.enumeration, same.identity, same.declarationName, members]

/-- A type that is written in place has the same form in all its occurrences. -/
theorem inPlace {mapper : Mapper Loader State} {nested : Host Loader → MappingM State TypeRef}
    (same : Agree source a b) (plain : a.kind.isDeclared = false) :
    mapper.inPlace nested a = mapper.inPlace nested b := by
  have element : a.element = b.element := by
    have shape := congrArg Host.element same.1
    exact shape
  have key : a.key = b.key := by
    have shape := congrArg Host.key same.1
    exact shape
  have value : a.value = b.value := by
    have shape := congrArg Host.value same.1
    exact shape
  have options : a.options = b.options := by
    have shape := congrArg Host.options same.1
    exact shape
  rw [Mapper.inPlace_eq, Mapper.inPlace_eq, same.identity, same.fullName, element, key, value,
    options, ← same.kind]
  cases kind : a.kind with
  | object => rw [kind] at plain; cases plain
  | enumeration => rw [kind] at plain; cases plain
  | _ => rfl

/-- All occurrences of a type are mapped alike. -/
theorem mapType {mapper : Mapper Loader State} (pointed : mapper.override.PointsTo targets)
    (same : Agree mapper.source a b) : mapper.mapType a = mapper.mapType b := by
  have asked : mapper.ask mapper.reference a = mapper.ask mapper.reference b := by
    rcases pointed with ⟨silent, _⟩ | paths
    · rw [Mapper.ask, Mapper.ask, silent]
      rfl
    · simp only [Mapper.ask, paths, Override.paths, same.fullName]
  have interface : mapper.interface a = mapper.interface b := by
    rw [Mapper.interface, Mapper.interface, same.identity, same.declarationName, same.2]
  rw [Mapper.mapType, Mapper.mapType, asked, same.identity, ← same.kind, interface,
    same.enumeration, same.brandedDate]
  cases kind : a.kind with
  | object => rfl
  | enumeration => rfl
  | date => rfl
  | _ => rw [same.inPlace (by rw [kind]; rfl)]

theorem script (pointed : setting.override.PointsTo targets) (same : Agree setting.source a b) :
    setting.mapper.script a = setting.mapper.script b := by
  have alike : setting.mapper.scripted.mapType a = setting.mapper.scripted.mapType b :=
    same.mapType (show setting.mapper.scripted.override.PointsTo targets from pointed)
  rw [Mapper.script, Mapper.script, alike]

theorem due (pointed : setting.override.PointsTo targets) (same : Agree setting.source a b) :
    Graph.due setting a = Graph.due setting b := by
  rw [Graph.due, Graph.due, same.script pointed]

theorem mappable (pointed : setting.override.PointsTo targets)
    (same : Agree setting.source a b) : Mappable setting a ↔ Mappable setting b := by
  rw [Mappable, Mappable, same.script pointed]

end Agree

/-! ## What is due -/

/-- Aliases are told apart by their identities. -/
theorem Coherent.synthesized_eq (coherent : Coherent setting targets roots)
    {declaration declaration' : Declaration}
    (synthesized : Synthesized setting.options targets (Reachable setting targets roots)
      declaration)
    (synthesized' : Synthesized setting.options targets (Reachable setting targets roots)
      declaration')
    (same : declaration.identity = declaration'.identity) : declaration = declaration' := by
  have reserved : ∀ host, Reachable setting targets roots host → host.kind = .date →
      (brandedDate host).identity ≠ nullableIdentity := by
    intro host reached kind
    rw [identity_brandedDate (coherent.dates host reached kind)]
    exact coherent.unreserved host reached
  cases synthesized with
  | nullable =>
    cases synthesized' with
    | nullable => rfl
    | branded holds free kind style => exact absurd same.symm (reserved _ holds kind)
  | @branded date holds free kind style =>
    cases synthesized' with
    | nullable => exact absurd same (reserved _ holds kind)
    | @branded date' holds' free' kind' style' =>
      rw [identity_brandedDate (coherent.dates date holds kind),
        identity_brandedDate (coherent.dates date' holds' kind')] at same
      exact (coherent.agree date date' holds holds' same).brandedDate

/-- A declaration that is due for a type: its own, or an alias that comes up on the way. -/
inductive IsDue (setting : Setting Handle Loader) (targets : List (String × HandWritten))
    (roots : List Handle) (host : Host Loader) (declaration : Declaration) : Prop where
  | own (owned : owns targets host = true) (identity : declaration.identity = host.identity)
    (name : declaration.name = host.declarationName)
    (alone : mappedTo (setting.mapper.script host).1 = [declaration])
  | synthesized (synthesized : Synthesized setting.options targets
      (Reachable setting targets roots) declaration)

/-- Requests that are written down register aliases only. -/
theorem synthesized_of_requests {options : Options} {property : Host Loader → Prop}
    {hosts : List (Host Loader)} {demands demands' : List (Demand Loader)}
    (asks : Requests Demand.services options targets property hosts demands demands')
    (before : ∀ declaration ∈ demands.flatMap Demand.declarations,
      Synthesized options targets property declaration) :
    ∀ declaration ∈ demands'.flatMap Demand.declarations,
      Synthesized options targets property declaration := by
  induction asks with
  | done demands => exact before
  | @require host hosts demands _ rest ih =>
    refine ih ?_
    rw [show Demand.services.require host demands = demands ++ [.require host] from rfl,
      List.flatMap_append]
    simpa [Demand.declarations] using before
  | @register declaration hosts demands _ synthesized rest ih =>
    refine ih ?_
    rw [show Demand.services.register declaration demands = demands ++ [.register declaration]
      from rfl, List.flatMap_append, List.forall_mem_append]
    exact ⟨before, by simpa [Demand.declarations] using synthesized⟩

/-- What a reachable type is mapped to: its own declaration, the alias of a date, or a form in
place. -/
inductive MappedAs (setting : Setting Handle Loader) (targets : List (String × HandWritten))
    (host : Host Loader) : Mapped → Prop where
  | own {declaration : Declaration} (owned : owns targets host = true)
    (identity : declaration.identity = host.identity)
    (name : declaration.name = host.declarationName) :
    MappedAs setting targets host (.declarations [declaration])
  | date (free : isClaimed targets host = false) (kind : host.kind = .date)
    (style : setting.options.dateStyle = .branded) :
    MappedAs setting targets host (.declarations [brandedDate host])
  | inline (foreign : owns targets host = false) (reference : TypeRef) :
    MappedAs setting targets host (.inline reference)

/-- The script of a type that can be mapped, by cases. -/
theorem script_spec (pointed : setting.override.PointsTo targets) {host : Host Loader}
    (reached : Reachable setting targets roots host) {mapped : Mapped}
    (done : (setting.mapper.script host).1 = .ok mapped) :
    MappedAs setting targets host mapped ∧
      ∀ declaration ∈ (setting.mapper.script host).2.flatMap Demand.declarations,
        Synthesized setting.options targets (Reachable setting targets roots) declaration := by
  have maps : setting.mapper.scripted.Maps targets (Reachable setting targets roots) host []
      mapped (setting.mapper.script host).2 :=
    Mapper.maps_of_mapType
      (show setting.mapper.scripted.override.PointsTo targets from pointed) partsClosed_reachable
      reached (fun free kind _ loaded _ listed => .member reached free kind loaded listed)
      (Prod.ext done rfl)
  revert maps
  generalize (setting.mapper.script host).2 = demands
  intro maps
  cases maps with
  | claimed reference taken =>
    exact ⟨.inline (owns_of_claimed taken) reference, fun _ member => by cases member⟩
  | object properties free kind next asks =>
    exact ⟨.own (owns_iff.mpr ⟨free, by rw [kind]; rfl⟩) rfl rfl,
      synthesized_of_requests asks (by simp)⟩
  | enumeration free kind =>
    have owned : owns targets host = true := owns_iff.mpr ⟨free, by rw [kind]; rfl⟩
    refine ⟨.own owned ?_ ?_, fun _ member => by cases member⟩ <;>
      cases setting.mapper.scripted.options.enumStyle <;> rfl
  | date free kind style => exact ⟨.date free kind style, fun _ member => by cases member⟩
  | inline reference free plain asks =>
    exact ⟨.inline (owns_of_plain plain) reference, synthesized_of_requests asks (by simp)⟩

/-- What mapping a type registers is due for the type. -/
theorem isDue_of_mem_due (pointed : setting.override.PointsTo targets) {host : Host Loader}
    (reached : Reachable setting targets roots host) (mappable : Mappable setting host) :
    ∀ declaration ∈ due setting host, IsDue setting targets roots host declaration := by
  obtain ⟨mapped, done⟩ := mappable
  obtain ⟨mappedAs, synthesized⟩ := script_spec pointed reached done
  rw [due, List.forall_mem_append]
  refine ⟨fun declaration member => .synthesized (synthesized declaration member), ?_⟩
  rw [done]
  cases mappedAs with
  | own owned identity name =>
    rw [mappedTo, List.forall_mem_singleton]
    exact .own owned identity name (congrArg mappedTo done)
  | date free kind style =>
    rw [mappedTo, List.forall_mem_singleton]
    exact .synthesized (.branded reached free kind style)
  | inline foreign reference =>
    intro declaration member
    cases member

/-- An object or an enumeration has its own declaration due. -/
theorem exists_due_of_owns (pointed : setting.override.PointsTo targets) {host : Host Loader}
    (reached : Reachable setting targets roots host) (owned : owns targets host = true)
    (mappable : Mappable setting host) :
    ∃ declaration ∈ due setting host, declaration.identity = host.identity := by
  obtain ⟨mapped, done⟩ := mappable
  rw [due, done]
  cases (script_spec pointed reached done).1 with
  | own owned identity name =>
    exact ⟨_, List.mem_append_right _ (List.mem_singleton_self _), identity⟩
  | date free kind style =>
    have declared := (owns_iff.mp owned).2
    rw [kind] at declared
    cases declared
  | inline foreign reference =>
    rw [foreign] at owned
    cases owned

/-- A type that is mapped to declarations is mapped to one, under its own identity. -/
theorem exists_eq_singleton (pointed : setting.override.PointsTo targets)
    (coherent : Coherent setting targets roots) {host : Host Loader}
    (reached : Reachable setting targets roots host) {declarations : List Declaration}
    (done : (setting.mapper.script host).1 = .ok (.declarations declarations)) :
    ∃ declaration, declarations = [declaration] ∧ declaration.identity = host.identity := by
  cases (script_spec pointed reached done).1 with
  | own owned identity name => exact ⟨_, rfl, identity⟩
  | date free kind style =>
    exact ⟨_, rfl, identity_brandedDate (coherent.dates host reached kind)⟩

/-- A branded date has its alias due and asks for nothing. -/
theorem script_date (pointed : setting.override.PointsTo targets) {host : Host Loader}
    (free : isClaimed targets host = false) (kind : host.kind = .date)
    (style : setting.options.dateStyle = .branded) :
    setting.mapper.script host = (.ok (.declarations [brandedDate host]), []) := by
  have open' : Override.target? targets host.fullName = none := by
    simpa [isClaimed] using free
  have style' : setting.mapper.scripted.options.dateStyle = .branded := style
  rw [Mapper.script, Mapper.mapType, outcome_bind, Mapper.outcome_ask
    (show setting.mapper.scripted.override.PointsTo targets from pointed), open', Option.map_none]
  simp only [kind, style', if_true, outcome_pure]

/-- No two types have different declarations due for one identity. -/
theorem IsDue.eq (pointed : setting.override.PointsTo targets)
    (coherent : Coherent setting targets roots) {a b : Host Loader}
    (reached : Reachable setting targets roots a) (reached' : Reachable setting targets roots b)
    {declaration declaration' : Declaration}
    (isDue : IsDue setting targets roots a declaration)
    (isDue' : IsDue setting targets roots b declaration')
    (same : declaration.identity = declaration'.identity) : declaration = declaration' := by
  cases isDue with
  | own owned identity _ alone =>
    cases isDue' with
    | own owned' identity' _ alone' =>
      have agree := coherent.agree a b reached reached' (by rw [← identity, same, identity'])
      rw [agree.script pointed, alone'] at alone
      exact (List.cons.inj alone).1.symm
    | synthesized synthesized =>
      exact absurd (same.symm.trans identity)
        (coherent.synthesized_ne synthesized reached (owns_iff.mp owned).2)
  | synthesized synthesized =>
    cases isDue' with
    | own owned' identity' _ _ =>
      exact absurd (same.trans identity')
        (coherent.synthesized_ne synthesized reached' (owns_iff.mp owned').2)
    | synthesized synthesized' =>
      exact coherent.synthesized_eq synthesized synthesized' same

/-! ## Names of instantiations -/

/-- A reachable instantiation is declared under the name. -/
def Bears (setting : Setting Handle Loader) (targets : List (String × HandWritten))
    (roots : List Handle) (name : String) (identity : Identity) : Prop :=
  ∃ host, Reachable setting targets roots host ∧ host.arguments ≠ [] ∧
    host.declarationName = name ∧ host.identity = identity

/-- Reachable instantiations are told apart by the names of their declarations. -/
def NamesApart (setting : Setting Handle Loader) (targets : List (String × HandWritten))
    (roots : List Handle) : Prop :=
  ∀ a b, Reachable setting targets roots a → Reachable setting targets roots b →
    a.arguments ≠ [] → b.arguments ≠ [] → a.declarationName = b.declarationName →
      a.identity = b.identity

theorem NamesApart.eq (apart : NamesApart setting targets roots) {name : String}
    {identity identity' : Identity} (bears : Bears setting targets roots name identity)
    (bears' : Bears setting targets roots name identity') : identity = identity' := by
  obtain ⟨a, reached, arguments, named, rfl⟩ := bears
  obtain ⟨b, reached', arguments', named', rfl⟩ := bears'
  exact apart a b reached reached' arguments arguments' (named.trans named'.symm)

/-- A declaration that is due takes no name, or that of a reachable instantiation. -/
theorem IsDue.bears {host : Host Loader} (reached : Reachable setting targets roots host)
    {declaration : Declaration} (isDue : IsDue setting targets roots host declaration) :
    declaration.identity.arguments = [] ∨
      Bears setting targets roots declaration.name declaration.identity := by
  cases isDue with
  | own owned identity name alone =>
    by_cases plain : host.arguments = []
    · left
      rw [identity]
      cases host
      simp only at plain
      rw [Host.identity, plain, Host.argumentIdentities]
    · exact .inr ⟨host, reached, plain, name.symm, identity.symm⟩
  | synthesized synthesized =>
    left
    cases synthesized <;> rfl

end Graph

end TypeContracts
