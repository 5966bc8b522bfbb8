import TypeContracts.Graph.Walk
import TypeContracts.Proofs.Graph.Builder
import TypeContracts.Proofs.Mapping.Rules

/-!
# What a walk keeps

A walk keeps every property of builders that the services keep and that leaving the queue
keeps (`Graph.keeps_walk`). One such property is that every identity is declared once and
under its own key (`Builder.Consistent`), so that the cache of a walk is a finite map from
identities to their declarations (`Graph.consistent_walk`).
-/

set_option autoImplicit false

namespace TypeContracts

open MappingM

namespace Graph

variable {Handle Loader : Type} {setting : Setting Handle Loader}
  {property : Builder Loader → Prop}

theorem keeps_settled {α : Type} (result : Except Fault α) :
    Keeps property (settled result : BuildM Loader α) := by
  cases result with
  | ok value => exact keeps_pure value
  | error fault => exact keeps_throw fault

theorem keeps_enqueueRoots (kept : Builder.services.Keep property) (roots : List Handle) :
    Keeps property (enqueueRoots setting roots) := by
  induction roots with
  | nil => exact keeps_pure ()
  | cons handle rest ih =>
    exact (keeps_settled _).bind fun root => (keeps_modify (kept.require root)).bind fun _ => ih

theorem keeps_registerAll (kept : Builder.services.Keep property)
    (declarations : List Declaration) :
    Keeps property (registerAll declarations : BuildM Loader Unit) := by
  refine keeps_modify ?_
  induction declarations with
  | nil => exact fun _ holds => holds
  | cons declaration rest ih => exact fun s holds => ih _ (kept.register declaration s holds)

theorem keeps_mapHost (kept : Builder.services.Keep property) (host : Host Loader) :
    Keeps property (mapHost setting host) := by
  refine keeps_get.bind fun builder => ?_
  split_ifs
  · exact keeps_pure ()
  · refine (keeps_modify (kept.report _)).bind fun _ => ?_
    have mapping : Keeps property (setting.mapper.mapType host) :=
      Mapper.keeps_mapType kept host
    refine mapping.bind fun mapped => ?_
    cases mapped with
    | inline value => exact keeps_modify (kept.report _)
    | declarations declarations =>
      refine (keeps_registerAll kept declarations).bind fun _ => keeps_get.bind fun _ => ?_
      split_ifs
      · exact keeps_throw _
      · exact keeps_pure ()

theorem keeps_drain (kept : Builder.services.Keep property)
    (left : ∀ builder host rest, builder.queue = host :: rest → property builder →
      property (builder.dequeue host rest)) (limit : Nat) : Keeps property (drain setting limit) := by
  induction limit with
  | zero =>
    refine keeps_get.bind fun builder => ?_
    split_ifs
    · exact keeps_throw _
    · exact keeps_pure ()
  | succ limit ih =>
    intro builder holds
    rw [drain, outcome_bind, outcome_get]
    simp only
    cases queue : builder.queue with
    | nil => exact holds
    | cons host rest =>
      have step : Keeps property (mapHost setting host >>= fun _ => drain setting limit) :=
        (keeps_mapHost kept host).bind fun _ => ih
      simp only
      rw [outcome_bind, outcome_modify]
      exact step _ (left builder host rest queue holds)

/-- A walk keeps what the services keep and what leaving the queue keeps. -/
theorem keeps_walk (kept : Builder.services.Keep property)
    (left : ∀ builder host rest, builder.queue = host :: rest → property builder →
      property (builder.dequeue host rest)) (limit : Nat) (roots : List Handle) :
    Keeps property (walk setting limit roots) :=
  (keeps_enqueueRoots kept roots).bind fun _ => keeps_drain kept left limit

/-- A build keeps what its walk keeps. -/
theorem keeps_build (kept : Builder.services.Keep property)
    (left : ∀ builder host rest, builder.queue = host :: rest → property builder →
      property (builder.dequeue host rest)) (limit : Nat) (roots : List Handle) :
    Keeps property (build setting limit roots) :=
  (keeps_walk kept left limit roots).bind fun _ => keeps_get.bind fun _ =>
    (keeps_settled _).bind fun _ => (keeps_modify (kept.report _)).bind fun _ => keeps_pure _

end Graph

/-- A walk from an empty builder declares every identity once, under its own key. -/
theorem Graph.consistent_walk {Handle Loader : Type} (setting : Setting Handle Loader)
    (limit : Nat) (roots : List Handle) : (outcome (walk setting limit roots) {}).2.Consistent :=
  keeps_walk Builder.keep_consistent
    (fun _ _ _ _ consistent => ⟨consistent.nodup, consistent.keyed⟩)
    limit roots {} Builder.consistent_empty

end TypeContracts
