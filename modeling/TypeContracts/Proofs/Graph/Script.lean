import TypeContracts.Graph.Walk
import TypeContracts.Proofs.Graph.Builder
import TypeContracts.Proofs.Mapping.Script

/-!
# Walks by scripts

One step of a walk maps the type that leaves the queue and registers what the type is mapped to
(`Graph.outcome_mapHost_eq_settle`). With an override that points at hand-written types at most,
mapping the type is carrying out its script (`Graph.outcome_mapHost`). The rest of a walk is the
loop over the queue (`Graph.outcome_drain_cons`, `Graph.outcome_drain_nil`).
-/

set_option autoImplicit false

namespace TypeContracts.Graph

open MappingM

variable {Handle Loader : Type} {setting : Setting Handle Loader}
  {targets : List (String × HandWritten)}

/-- The builder after the script of a type that has left the queue. -/
def scripted (setting : Setting Handle Loader) (host : Host Loader) (builder : Builder Loader) :
    Builder Loader :=
  Builder.services.serveAll (setting.mapper.script host).2
    (builder.report (.mapping host.identity))

/-- The outcome of registering what a type is mapped to. -/
def settle (host : Host Loader) (builder : Builder Loader) :
    Except Fault Mapped → Except Fault Unit × Builder Loader
  | .error fault => (.error fault, builder)
  | .ok (.inline _) => (.ok (), builder.report (.inlined host.identity))
  | .ok (.declarations declarations) =>
    let after := declarations.foldl (fun b d => b.register d) builder
    if after.isCached host.identity then (.ok (), after)
    else (.error (.unmappable host.identity.text .noDeclaration), after)

/-- Registering declarations ends well when the type is declared by then. -/
theorem settle_declarations_iff {host : Host Loader} {builder after : Builder Loader}
    {declarations : List Declaration} :
    settle host builder (.ok (.declarations declarations)) = (.ok (), after) ↔
      declarations.foldl (fun b d => b.register d) builder = after ∧
        host.identity ∈ after.keys := by
  rw [← Builder.isCached_iff]
  simp only [settle]
  split_ifs with declared
  · rw [Prod.mk.injEq, and_iff_right rfl]
    exact ⟨fun same => ⟨same, same ▸ declared⟩, And.left⟩
  · refine iff_of_false (by simp) ?_
    rintro ⟨rfl, declared'⟩
    exact declared declared'

/-- A type that leaves the queue is passed over when it is declared. Otherwise it is mapped, and
its declarations are registered. -/
theorem outcome_mapHost_eq_settle (host : Host Loader) (builder : Builder Loader) :
    outcome (mapHost setting host) builder =
      if builder.isCached host.identity then (.ok (), builder)
      else
        let step := outcome (setting.mapper.mapType host) (builder.report (.mapping host.identity))
        settle host step.2 step.1 := by
  rw [mapHost, outcome_bind, outcome_get]
  simp only
  by_cases cached : builder.isCached host.identity = true
  · rw [if_pos cached, if_pos cached]
    rfl
  · rw [if_neg cached, if_neg cached, outcome_bind, outcome_modify]
    simp only
    rw [outcome_bind]
    rcases outcome (setting.mapper.mapType host) (builder.report (.mapping host.identity)) with
      ⟨fault | declarations | reference, middle⟩
    · rfl
    · simp only [settle, registerAll, outcome_bind, outcome_modify, outcome_get]
      cases (declarations.foldl (fun b d => b.register d) middle).isCached host.identity <;> rfl
    · rfl

/-- A type that is declared already is passed over. -/
theorem outcome_mapHost_of_cached {host : Host Loader} {builder : Builder Loader}
    (known : host.identity ∈ builder.keys) :
    outcome (mapHost setting host) builder = (.ok (), builder) := by
  rw [outcome_mapHost_eq_settle, if_pos (Builder.isCached_iff.mpr known)]

/-- A type that leaves the queue is passed over when it is declared. Otherwise its script is
carried out and its declarations are registered. -/
theorem outcome_mapHost (pointed : setting.override.PointsTo targets) (host : Host Loader)
    (builder : Builder Loader) :
    outcome (mapHost setting host) builder =
      if builder.isCached host.identity then (.ok (), builder)
      else settle host (scripted setting host builder) (setting.mapper.script host).1 := by
  have mapping := Mapper.outcome_mapType
    (show setting.mapper.override.PointsTo targets from pointed) host
    (builder.report (.mapping host.identity))
  rw [outcome_mapHost_eq_settle, mapping]
  rfl

/-- A walk goes on behind the first type of its queue. -/
theorem outcome_drain_cons {builder : Builder Loader} {host : Host Loader}
    {rest : List (Host Loader)} (queue : builder.queue = host :: rest) (limit : Nat) :
    outcome (drain setting (limit + 1)) builder =
      match outcome (mapHost setting host) (builder.dequeue host rest) with
      | (.ok _, after) => outcome (drain setting limit) after
      | (.error fault, after) => (.error fault, after) := by
  rw [drain, outcome_bind, outcome_get]
  simp only [queue]
  rw [outcome_bind, outcome_modify]
  simp only
  rw [outcome_bind]
  rcases outcome (mapHost setting host) (builder.dequeue host rest) with ⟨fault | _, after⟩ <;> rfl

/-- A walk ends when its queue is empty. -/
theorem outcome_drain_nil {builder : Builder Loader} (queue : builder.queue = []) (limit : Nat) :
    outcome (drain setting limit) builder = (.ok (), builder) := by
  cases limit with
  | zero =>
    rw [drain, outcome_bind, outcome_get]
    simp only [queue]
    rfl
  | succ limit =>
    rw [drain, outcome_bind, outcome_get]
    simp only [queue]
    rfl

end TypeContracts.Graph
