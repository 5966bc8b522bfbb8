import TypeContracts.Proofs.Graph.Due

/-!
# What a step of a walk adds to the cache

A step that maps a type puts into the cache what is due for the type, as it is, and nothing else
(`Graph.added_mapHost`). The names that instantiations have taken stay those of reachable
instantiations, so that none is renamed (`Graph.TakenRightly`). Whether the step succeeds
depends on the type alone (`Graph.exists_outcome_mapHost`).
-/

set_option autoImplicit false

namespace TypeContracts.Graph

open MappingM Mapping

variable {Handle Loader : Type} {setting : Setting Handle Loader}
  {targets : List (String × HandWritten)} {roots : List Handle}

/-- The names that are taken are those of reachable instantiations. -/
def TakenRightly (setting : Setting Handle Loader) (targets : List (String × HandWritten))
    (roots : List Handle) (builder : Builder Loader) : Prop :=
  ∀ entry ∈ builder.taken, Bears setting targets roots entry.1 entry.2

/-- The declarations are put into the cache, each unless its identity is there, and nothing
else. -/
structure Added (declarations : List Declaration) (before after : Builder Loader) : Prop where
  kept : ∀ entry ∈ before.cache, entry ∈ after.cache
  met : ∀ declaration ∈ declarations, declaration.identity ∈ after.keys
  made : ∀ entry ∈ after.cache, entry ∈ before.cache ∨
    ∃ declaration ∈ declarations, entry = (declaration.identity, declaration)

namespace Added

variable {declarations declarations' : List Declaration} {a b c : Builder Loader}

theorem of_cache_eq (same : b.cache = a.cache) : Added [] a b :=
  ⟨fun _ member => same ▸ member, by simp, fun _ member => .inl (same ▸ member)⟩

theorem keys (added : Added declarations a b) : ∀ identity ∈ a.keys, identity ∈ b.keys := by
  intro identity known
  obtain ⟨entry, member, same⟩ := List.mem_map.mp known
  exact List.mem_map.mpr ⟨entry, added.kept entry member, same⟩

theorem trans (first : Added declarations a b) (second : Added declarations' b c) :
    Added (declarations ++ declarations') a c where
  kept entry member := second.kept entry (first.kept entry member)
  met := by
    rw [List.forall_mem_append]
    exact ⟨fun declaration member => second.keys _ (first.met declaration member), second.met⟩
  made entry member := by
    rcases second.made entry member with earlier | ⟨declaration, inside, same⟩
    · rcases first.made entry earlier with old | ⟨declaration, inside, same⟩
      · exact .inl old
      · exact .inr ⟨declaration, List.mem_append_left _ inside, same⟩
    · exact .inr ⟨declaration, List.mem_append_right _ inside, same⟩

end Added

/-! ## Registering -/

/-- A declaration gets the name that it comes with. -/
theorem nameFor_spec (apart : NamesApart setting targets roots) {builder : Builder Loader}
    (rightly : TakenRightly setting targets roots builder) {declaration : Declaration}
    (bears : declaration.identity.arguments = [] ∨
      Bears setting targets roots declaration.name declaration.identity) :
    (builder.nameFor declaration).1 = declaration.name ∧
      ∀ entry ∈ (builder.nameFor declaration).2, Bears setting targets roots entry.1 entry.2 := by
  rw [Builder.nameFor]
  by_cases plain : declaration.identity.arguments = []
  · rw [plain]
    exact ⟨rfl, rightly⟩
  · have bears' := bears.resolve_left plain
    rw [if_neg (by simpa using plain), Builder.freeName]
    cases taken : Builder.owner? builder.taken declaration.name with
    | none =>
      refine ⟨rfl, ?_⟩
      rw [List.forall_mem_append, List.forall_mem_singleton]
      exact ⟨rightly, bears'⟩
    | some owner =>
      obtain ⟨entry, found, rfl⟩ := Option.map_eq_some_iff.mp taken
      have named : entry.1 = declaration.name := by simpa using List.find?_some found
      have holds := rightly entry (List.mem_of_find?_eq_some found)
      have own : entry.2 = declaration.identity := apart.eq (named ▸ holds) bears'
      rw [show Prod.snd entry = declaration.identity from own]
      simp only [if_true]
      exact ⟨trivial, rightly⟩

theorem added_register (apart : NamesApart setting targets roots) {builder : Builder Loader}
    (rightly : TakenRightly setting targets roots builder) {declaration : Declaration}
    (bears : declaration.identity.arguments = [] ∨
      Bears setting targets roots declaration.name declaration.identity) :
    TakenRightly setting targets roots (builder.register declaration) ∧
      Added [declaration] builder (builder.register declaration) := by
  obtain ⟨named, taken⟩ := nameFor_spec apart rightly bears
  have met : ∀ other ∈ [declaration], other.identity ∈ (builder.register declaration).keys := by
    rw [List.forall_mem_singleton]
    exact Builder.mem_keys_register declaration builder
  rw [Builder.register] at met ⊢
  by_cases cached : builder.isCached declaration.identity = true
  · rw [if_pos cached] at met ⊢
    exact ⟨rightly, fun _ member => member, met, fun _ => .inl⟩
  · rw [if_neg cached] at met ⊢
    simp only [named, if_true, Builder.reportRenaming] at met ⊢
    refine ⟨taken, fun _ => List.mem_append_left _, met, fun entry member => ?_⟩
    refine (List.mem_append.mp member).imp_right fun new => ?_
    exact ⟨declaration, List.mem_singleton_self _, List.mem_singleton.mp new⟩

theorem added_registerAll (apart : NamesApart setting targets roots)
    {declarations : List Declaration} (bears : ∀ declaration ∈ declarations,
      declaration.identity.arguments = [] ∨
        Bears setting targets roots declaration.name declaration.identity)
    {builder : Builder Loader} (rightly : TakenRightly setting targets roots builder) :
    TakenRightly setting targets roots (declarations.foldl (fun b d => b.register d) builder) ∧
      Added declarations builder (declarations.foldl (fun b d => b.register d) builder) := by
  induction declarations generalizing builder with
  | nil => exact ⟨rightly, .of_cache_eq rfl⟩
  | cons declaration rest ih =>
    rw [List.forall_mem_cons] at bears
    obtain ⟨rightly', added⟩ := added_register apart rightly bears.1
    obtain ⟨rightly'', added'⟩ := ih bears.2 rightly'
    exact ⟨rightly'', added.trans added'⟩

/-- Carrying out demands adds what they register. -/
theorem added_serveAll (apart : NamesApart setting targets roots)
    {demands : List (Demand Loader)}
    (bears : ∀ declaration ∈ demands.flatMap Demand.declarations,
      declaration.identity.arguments = [] ∨
        Bears setting targets roots declaration.name declaration.identity)
    {builder : Builder Loader} (rightly : TakenRightly setting targets roots builder) :
    TakenRightly setting targets roots (Builder.services.serveAll demands builder) ∧
      Added (demands.flatMap Demand.declarations) builder
        (Builder.services.serveAll demands builder) := by
  induction demands generalizing builder with
  | nil => exact ⟨rightly, .of_cache_eq rfl⟩
  | cons demand rest ih =>
    rw [List.flatMap_cons, List.forall_mem_append] at bears
    have first : TakenRightly setting targets roots (Builder.services.serve builder demand) ∧
        Added demand.declarations builder (Builder.services.serve builder demand) := by
      cases demand with
      | require host =>
        have same : (builder.require host).cache = builder.cache ∧
            (builder.require host).taken = builder.taken := by
          rcases Builder.require_spec host builder with ⟨_, same⟩ | ⟨_, _, added⟩
          · rw [same]
            exact ⟨rfl, rfl⟩
          · rw [added]
            exact ⟨rfl, rfl⟩
        exact ⟨fun entry member => rightly entry (same.2 ▸ member), .of_cache_eq same.1⟩
      | register declaration =>
        exact added_register apart rightly (bears.1 declaration (List.mem_singleton_self _))
      | report event => exact ⟨rightly, .of_cache_eq rfl⟩
    obtain ⟨rightly', added⟩ := ih bears.2 first.1
    exact ⟨rightly', first.2.trans added⟩

/-! ## Mapping one type -/

/-- Only what can be mapped leaves the queue, unless it is declared. -/
theorem mappable_of_outcome (pointed : setting.override.PointsTo targets) {host : Host Loader}
    {builder after : Builder Loader} (new : host.identity ∉ builder.keys)
    (done : outcome (mapHost setting host) builder = (.ok (), after)) :
    Mappable setting host := by
  rw [outcome_mapHost pointed, if_neg (mt Builder.isCached_iff.mp new)] at done
  rcases mapping : (setting.mapper.script host).1 with fault | mapped
  · rw [mapping] at done
    cases done
  · exact ⟨mapped, mapping⟩

/-- A step adds what is due for its type. -/
theorem added_mapHost (pointed : setting.override.PointsTo targets)
    (apart : NamesApart setting targets roots) {host : Host Loader}
    (reached : Reachable setting targets roots host) {builder after : Builder Loader}
    (rightly : TakenRightly setting targets roots builder) (new : host.identity ∉ builder.keys)
    (done : outcome (mapHost setting host) builder = (.ok (), after)) :
    TakenRightly setting targets roots after ∧ Added (due setting host) builder after := by
  have mappable := mappable_of_outcome pointed new done
  have bears := fun declaration member =>
    (isDue_of_mem_due pointed reached mappable declaration member).bears reached
  rw [due, List.forall_mem_append] at bears
  obtain ⟨rightly', added⟩ := added_serveAll apart bears.1
    (show TakenRightly setting targets roots (builder.report (.mapping host.identity)) from rightly)
  have before : Added [] builder (builder.report (.mapping host.identity)) := .of_cache_eq rfl
  rw [outcome_mapHost pointed, if_neg (mt Builder.isCached_iff.mp new), scripted] at done
  rw [due]
  obtain ⟨mapped, mapping⟩ := mappable
  rw [mapping] at done bears ⊢
  cases mapped with
  | inline reference =>
    obtain rfl := (Prod.mk.inj done).2
    exact ⟨rightly', (before.trans added).trans (.of_cache_eq rfl)⟩
  | declarations declarations =>
    obtain ⟨rightly'', added'⟩ := added_registerAll apart bears.2 rightly'
    obtain ⟨rfl, _⟩ := settle_declarations_iff.mp done
    exact ⟨rightly'', (before.trans added).trans added'⟩

/-- A reachable type that can be mapped is mapped in every builder. -/
theorem exists_outcome_mapHost (pointed : setting.override.PointsTo targets)
    (coherent : Coherent setting targets roots) {host : Host Loader}
    (reached : Reachable setting targets roots host) (mappable : Mappable setting host)
    (builder : Builder Loader) :
    ∃ after, outcome (mapHost setting host) builder = (.ok (), after) := by
  rw [outcome_mapHost pointed]
  split_ifs with cached
  · exact ⟨builder, rfl⟩
  · obtain ⟨declarations | reference, done⟩ := mappable
    · obtain ⟨declaration, rfl, own⟩ := exists_eq_singleton pointed coherent reached done
      have known := Builder.mem_keys_register declaration (scripted setting host builder)
      rw [own, ← Builder.isCached_iff] at known
      refine ⟨(scripted setting host builder).register declaration, ?_⟩
      rw [done]
      exact if_pos known
    · rw [done]
      exact ⟨_, rfl⟩

end TypeContracts.Graph
