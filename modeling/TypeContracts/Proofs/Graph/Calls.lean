import Mathlib.Data.List.Infix
import Mathlib.Logic.Relation
import TypeContracts.Proofs.Graph.Walk

/-!
# A builder that is kept

A builder can be kept from one call to the next: roots are built on it, types are required,
references worked out and declarations registered, and a call that fails leaves it as it is by
then. Whatever a call does, it does in steps of four sorts (`Builder.Step`), those of the override
included, which can only ask for what the rules ask for themselves (`Call.reaches`).

So what every step keeps holds in every state of every history of calls (`Builder.invariant_after`):
the types that wait are those of the queue, in the same order, the cache is a map from identities
to their declarations, and what is in the cache stays as it is.
-/

set_option autoImplicit false

namespace TypeContracts

open MappingM

namespace Builder

variable {Loader : Type}

/-! ## Steps -/

/-- What happens to a builder: a type is required, a declaration is registered, an event is
reported, or the first type leaves the queue. -/
inductive Step : Builder Loader → Builder Loader → Prop where
  | require (host : Host Loader) (builder : Builder Loader) : Step builder (builder.require host)
  | register (declaration : Declaration) (builder : Builder Loader) :
    Step builder (builder.register declaration)
  | report (event : Event) (builder : Builder Loader) : Step builder (builder.report event)
  | dequeue {builder : Builder Loader} {host : Host Loader} {rest : List (Host Loader)}
    (queue : builder.queue = host :: rest) : Step builder (builder.dequeue host rest)

/-- Some steps lead from a builder to another. -/
abbrev Reaches : Builder Loader → Builder Loader → Prop := Relation.ReflTransGen Step

/-- The types that wait are those of the queue, in the same order. -/
structure Aligned (builder : Builder Loader) : Prop extends builder.Queued where
  values : builder.queue = builder.pending.map Prod.snd

theorem aligned_empty : ({} : Builder Loader).Aligned := ⟨⟨rfl, List.nodup_nil⟩, rfl⟩

theorem Aligned.require {builder : Builder Loader} (aligned : builder.Aligned)
    (host : Host Loader) : (builder.require host).Aligned := by
  refine ⟨(aligned.toQueued.require host).1, ?_⟩
  rcases require_spec host builder with ⟨_, same⟩ | ⟨_, _, added⟩
  · rw [same]
    exact aligned.values
  · rw [added, List.map_append, ← aligned.values]
    rfl

theorem Aligned.register {builder : Builder Loader} (aligned : builder.Aligned)
    (declaration : Declaration) : (builder.register declaration).Aligned := by
  refine ⟨aligned.toQueued.register declaration, ?_⟩
  rcases register_spec declaration builder with ⟨_, same⟩ | ⟨_, _, _, _, added⟩
  · rw [same]
    exact aligned.values
  · rw [added]
    exact aligned.values

/-- The type that leaves the queue is the one that has waited longest, so that it alone waits no
more. -/
theorem Aligned.dequeue {builder : Builder Loader} (aligned : builder.Aligned) {host : Host Loader}
    {rest : List (Host Loader)} (queue : builder.queue = host :: rest) :
    (builder.dequeue host rest).Aligned := by
  obtain ⟨queued, gone⟩ := aligned.toQueued.dequeue queue
  refine ⟨queued, ?_⟩
  have values := aligned.values
  have pending := aligned.pending
  rw [queue] at values
  rw [waiting, queue] at pending
  rcases first : builder.pending with _ | ⟨entry, others⟩ <;> rw [first] at values pending
  · cases values
  obtain ⟨_, behind⟩ := List.cons.inj values
  obtain ⟨own, keys⟩ := List.cons.inj pending
  -- No other entry has the identity of the type that leaves.
  have kept : ∀ entry ∈ others, (entry.1 != host.identity) = true := by
    intro entry member
    rw [bne_iff_ne]
    intro same
    exact gone (same ▸ keys ▸ List.mem_map_of_mem member)
  show rest = (builder.pending.filter fun entry => entry.1 != host.identity).map Prod.snd
  rw [first, List.filter_cons_of_neg (by simpa using own), List.filter_eq_self.mpr kept]
  exact behind

/-- A step keeps the queue and the types that wait in line. -/
theorem Step.aligned {builder after : Builder Loader} (step : Step builder after)
    (aligned : builder.Aligned) : after.Aligned := by
  cases step with
  | require host => exact aligned.require host
  | register declaration => exact aligned.register declaration
  | report event => exact ⟨⟨aligned.pending, aligned.nodup⟩, aligned.values⟩
  | dequeue queue => exact aligned.dequeue queue

/-- A step keeps the cache a map from identities to their declarations. -/
theorem Step.consistent {builder after : Builder Loader} (step : Step builder after)
    (consistent : builder.Consistent) : after.Consistent := by
  cases step with
  | require host => exact consistent_require host builder consistent
  | register declaration => exact consistent_register declaration builder consistent
  | report event => exact ⟨consistent.nodup, consistent.keyed⟩
  | dequeue queue => exact ⟨consistent.nodup, consistent.keyed⟩

/-- A step changes nothing that is in the cache, and adds behind it. -/
theorem Step.cache_prefix {builder after : Builder Loader} (step : Step builder after) :
    builder.cache <+: after.cache := by
  cases step with
  | require host =>
    rcases require_spec host builder with ⟨_, same⟩ | ⟨_, _, added⟩
    · rw [same]
    · rw [added]
  | register declaration =>
    rcases register_spec declaration builder with ⟨_, same⟩ | ⟨_, _, _, _, added⟩
    · rw [same]
    · rw [added]
      exact List.prefix_append _ _
  | report event => exact List.prefix_rfl
  | dequeue queue => exact List.prefix_rfl

theorem Reaches.aligned {builder after : Builder Loader} (steps : builder.Reaches after)
    (aligned : builder.Aligned) : after.Aligned := by
  induction steps with
  | refl => exact aligned
  | tail _ step ih => exact step.aligned ih

theorem Reaches.consistent {builder after : Builder Loader} (steps : builder.Reaches after)
    (consistent : builder.Consistent) : after.Consistent := by
  induction steps with
  | refl => exact consistent
  | tail _ step ih => exact step.consistent ih

theorem Reaches.cache_prefix {builder after : Builder Loader} (steps : builder.Reaches after) :
    builder.cache <+: after.cache := by
  induction steps with
  | refl => exact List.prefix_rfl
  | tail _ step ih => exact ih.trans step.cache_prefix

/-- The services act by steps. -/
theorem keep_reaches (start : Builder Loader) :
    (services : Services Loader (Builder Loader)).Keep start.Reaches where
  require host _ steps := steps.tail (.require host _)
  register declaration _ steps := steps.tail (.register declaration _)
  report event _ steps := steps.tail (.report event _)

end Builder

/-! ## Calls -/

/-- A call on a builder. -/
inductive Call (Handle Loader : Type) where
  | build (limit : Nat) (roots : List Handle)
  | require (host : Host Loader)
  | reference (host : Host Loader)
  | register (declaration : Declaration)

variable {Handle Loader : Type}

namespace Call

/-- What a call does; what it returns is left aside. -/
def run (setting : Graph.Setting Handle Loader) : Call Handle Loader → Graph.BuildM Loader Unit
  | .build limit roots => do let _ ← Graph.build setting limit roots
  | .require host => do let _ ← setting.mapper.require host
  | .reference host => do let _ ← setting.mapper.reference host
  | .register declaration => do let _ ← setting.mapper.register declaration

/-- A call acts by steps, whether it fails or not. -/
theorem reaches (setting : Graph.Setting Handle Loader) (call : Call Handle Loader)
    (builder : Builder Loader) : builder.Reaches (outcome (call.run setting) builder).2 := by
  have kept : setting.mapper.services.Keep builder.Reaches := Builder.keep_reaches builder
  have keeps : Keeps builder.Reaches (call.run setting) := by
    cases call with
    | build limit roots =>
      have built : Keeps builder.Reaches (Graph.build setting limit roots) :=
        Graph.keeps_build kept (fun _ _ _ queue steps => steps.tail (.dequeue queue)) limit roots
      exact built.bind fun _ => keeps_pure ()
    | require host => exact (Mapper.keeps_require kept host).bind fun _ => keeps_pure ()
    | reference host => exact (Mapper.keeps_referenceWithin kept _ host).bind fun _ => keeps_pure ()
    | register declaration =>
      exact (Mapper.keeps_register kept declaration).bind fun _ => keeps_pure ()
  exact keeps builder .refl

end Call

namespace Builder

/-- The builder after some calls. The provider and the override may answer one way in one call and
another way in the next, so that every call comes with its own setting. -/
def after (calls : List (Graph.Setting Handle Loader × Call Handle Loader))
    (builder : Builder Loader) : Builder Loader :=
  calls.foldl (fun builder call => (outcome (call.2.run call.1) builder).2) builder

theorem reaches_after (calls : List (Graph.Setting Handle Loader × Call Handle Loader))
    (builder : Builder Loader) : builder.Reaches (builder.after calls) := by
  induction calls generalizing builder with
  | nil => exact .refl
  | cons call rest ih => exact (call.2.reaches call.1 builder).trans (ih _)

/-- After every history of calls on a new builder, the types that wait are those of the queue, in
the same order and each identity once, every declaration is cached under its own identity, and what
was in the cache at any time before is there still, as it was and in the same place. -/
theorem invariant_after (earlier later : List (Graph.Setting Handle Loader × Call Handle Loader)) :
    let kept : Builder Loader := after earlier {}
    let builder : Builder Loader := after (earlier ++ later) {}
    builder.queue = builder.pending.map Prod.snd ∧
      builder.queue.map Host.identity = builder.pending.map Prod.fst ∧
      (builder.queue.map Host.identity).Nodup ∧
      (∀ entry ∈ builder.cache, entry.2.identity = entry.1) ∧
      (builder.cache.map Prod.fst).Nodup ∧
      kept.cache <+: builder.cache := by
  have steps : Reaches {} (after (earlier ++ later) {}) := reaches_after _ _
  have behind : Reaches (after earlier {}) (after (earlier ++ later) {}) := by
    rw [after, after, List.foldl_append]
    exact reaches_after later _
  have aligned := steps.aligned aligned_empty
  have consistent := steps.consistent consistent_empty
  exact ⟨aligned.values, aligned.pending.symm, aligned.nodup, consistent.keyed, consistent.nodup,
    behind.cache_prefix⟩

end Builder

end TypeContracts
