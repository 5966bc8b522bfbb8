import TypeContracts.Graph.Walk
import TypeContracts.Proofs.Mapping.Parallel

/-!
# Two walks side by side

Two walks of the same roots run in parallel when their mapping rules do and when related
builders have the same queue and declare the same types (`Graph.Parallel`). Then they end alike:
both succeed or both fail with the same fault, in related builders (`Graph.simulates_walk`).
-/

set_option autoImplicit false

namespace TypeContracts.Graph

open MappingM Mapping

variable {Handle Loader : Type}

/-- The walks act alike on related builders, as far as types with the property are
concerned. -/
structure Parallel (targets : List (String × HandWritten)) (property : Host Loader → Prop)
    (states : Builder Loader → Builder Loader → Prop) (forms references : TypeRef → TypeRef → Prop)
    (setting setting' : Setting Handle Loader) : Prop where
  mapping : Mapper.Parallel targets property states forms references setting.mapper setting'.mapper
  describe : setting'.describe = setting.describe
  handed : ∀ host, property host → isClaimed targets host = false → host.kind = .object →
    ∀ members, host.members setting.source = .ok members →
      ∀ member ∈ members, property member.type
  queue : ∀ s s', states s s' → s'.queue = s.queue
  waiting : ∀ s s', states s s' → ∀ host ∈ s.queue, property host
  cached : ∀ s s', states s s' → ∀ host, property host →
    s'.isCached host.identity = s.isCached host.identity
  dequeue : ∀ s s', states s s' → ∀ host rest, s.queue = host :: rest →
    states (s.dequeue host rest) (s'.dequeue host rest)
  interface : ∀ host, property host → ∀ properties properties',
    List.Forall₂ (Mapper.PropertyAlike references) properties properties' →
      ∀ s s', states s s' →
        states (s.register (.interface host.identity host.declarationName properties))
          (s'.register (.interface host.identity host.declarationName properties'))
  enumeration : ∀ host, property host → ∀ s s', states s s' →
    states (s.register (Mapping.enumeration setting.options.enumStyle host))
      (s'.register (Mapping.enumeration setting.options.enumStyle host))

variable {targets : List (String × HandWritten)} {property : Host Loader → Prop}
  {states : Builder Loader → Builder Loader → Prop} {forms references : TypeRef → TypeRef → Prop}
  {setting setting' : Setting Handle Loader}

theorem simulates_settled {α : Type} (result : Except Fault α) :
    Simulates states (fun value value' => value = value' ∧ result = .ok value)
      (settled result : BuildM Loader α) (settled result) := by
  cases result with
  | ok value => exact simulates_pure ⟨rfl, rfl⟩
  | error fault => exact simulates_throw fault

namespace Parallel

variable (parallel : Parallel targets property states forms references setting setting')

include parallel

/-- Registering what a type is mapped to keeps the builders related. -/
theorem simulates_registerAll {host : Host Loader} (holds : property host)
    {declarations declarations' : List Declaration}
    (alike : Mapper.MappedAlike setting.options targets forms references host
      (.declarations declarations) (.declarations declarations')) :
    Simulates states (fun _ _ => True) (registerAll declarations : BuildM Loader Unit)
      (registerAll declarations') := by
  refine simulates_modify fun s s' related => ?_
  cases alike with
  | interface same => exact parallel.interface host holds _ _ same s s' related
  | enumeration => exact parallel.enumeration host holds s s' related
  | date free kind style => exact parallel.mapping.branded host holds free kind style s s' related

/-- Mapping a type that has left the queue keeps the builders related. -/
theorem simulates_mapHost {host : Host Loader} (holds : property host) :
    Simulates states (fun _ _ => True) (mapHost setting host) (mapHost setting' host) := by
  refine simulates_get_bind fun s s' related => ?_
  rw [parallel.cached s s' related host holds]
  refine (?_ : Simulates states (fun _ _ => True) _ _) s s' related
  split_ifs
  · exact simulates_pure trivial
  · refine (simulates_modify (parallel.mapping.report _)).bind fun _ _ _ => ?_
    refine (parallel.mapping.simulates_mapType host holds (parallel.handed host holds)).bind ?_
    intro mapped mapped' alike
    rcases mapped with declarations | reference
    · rcases mapped' with declarations' | reference'
      · refine (parallel.simulates_registerAll holds alike).bind fun _ _ _ => ?_
        refine simulates_get_bind fun t t' related' => ?_
        rw [parallel.cached t t' related' host holds]
        refine (?_ : Simulates states (fun _ _ => True) _ _) t t' related'
        split_ifs
        · exact simulates_throw _
        · exact simulates_pure trivial
      · cases alike
    · rcases mapped' with declarations' | reference'
      · cases alike
      · exact simulates_modify (parallel.mapping.report _)

/-- Working through the queue keeps the builders related. -/
theorem simulates_drain (limit : Nat) :
    Simulates states (fun _ _ => True) (drain setting limit) (drain setting' limit) := by
  induction limit with
  | zero =>
    refine simulates_get_bind fun s s' related => ?_
    rw [parallel.queue s s' related]
    refine (?_ : Simulates states (fun _ _ => True) _ _) s s' related
    split_ifs
    · exact simulates_throw _
    · exact simulates_pure trivial
  | succ limit ih =>
    refine simulates_get_bind fun s s' related => ?_
    rw [parallel.queue s s' related]
    cases waiting : s.queue with
    | nil => exact .ok trivial related
    | cons host rest =>
      have holds := parallel.waiting s s' related host (waiting ▸ List.mem_cons_self)
      have dequeued := parallel.dequeue s s' related host rest waiting
      simp only [outcome_bind, outcome_modify]
      rw [← outcome_bind, ← outcome_bind]
      exact ((parallel.simulates_mapHost holds).bind fun _ _ _ => ih) _ _ dequeued

/-- Queueing the roots keeps the builders related. -/
theorem simulates_enqueueRoots {roots : List Handle}
    (described : ∀ handle ∈ roots, ∀ host, setting.describe handle = .ok host → property host) :
    Simulates states (fun _ _ => True) (enqueueRoots setting roots)
      (enqueueRoots setting' roots) := by
  induction roots with
  | nil => exact simulates_pure trivial
  | cons handle rest ih =>
    rw [List.forall_mem_cons] at described
    rw [enqueueRoots, enqueueRoots, parallel.describe]
    refine (simulates_settled _).bind ?_
    rintro host _ ⟨rfl, found⟩
    refine (simulates_modify (parallel.mapping.require host (described.1 host found))).bind ?_
    intro _ _ _
    exact ih described.2

/-- Walks from the same roots end alike. -/
theorem simulates_walk (roots : List Handle)
    (described : ∀ handle ∈ roots, ∀ host, setting.describe handle = .ok host → property host)
    (limit : Nat) :
    Simulates states (fun _ _ => True) (walk setting limit roots) (walk setting' limit roots) :=
  (parallel.simulates_enqueueRoots described).bind fun _ _ _ => parallel.simulates_drain limit

end Parallel

end TypeContracts.Graph
