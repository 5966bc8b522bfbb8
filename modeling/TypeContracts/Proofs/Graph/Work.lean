import Mathlib.Algebra.Order.BigOperators.Group.Finset
import Mathlib.Algebra.BigOperators.Group.Finset.Basic
import Mathlib.Data.Set.Card
import TypeContracts.Proofs.Graph.Discovery
import TypeContracts.Proofs.Graph.Script
import TypeContracts.Proofs.Graph.Walk
import TypeContracts.Proofs.Mapping.Loading
import TypeContracts.Proofs.Result

/-!
# The work of a walk

A type leaves the pending types before it is declared, so an object that refers to itself is
queued once more while it is mapped. It is declared when that occurrence leaves the queue, and
nothing queues it again. A type that is written in place, or that stands for a hand-written one,
is only queued as a root. So no identity of an object or an enumeration leaves the queue more than
twice, no other identity more than once, and none is mapped more than once
(`Graph.Budgeted`).

If only finitely many identities of objects and enumerations can be reached, the number of types
that leave the queue is bounded, and the loop over the queue ends (`Graph.frugal_walk`). Types that
are passed over load no members: only those of the mapped types matter (`Graph.Drains.withSource`).
-/

set_option autoImplicit false

namespace TypeContracts.Graph

open MappingM Mapping

variable {Handle Loader : Type} {setting : Setting Handle Loader}
  {targets : List (String × HandWritten)} {roots : List Handle}

/-! ## The loop over the queue -/

/-- The loop over the queue, from a builder to its end, without a limit on its steps: the types
that leave the queue, those of them that are mapped, and how the loop ends. -/
inductive Drains (setting : Setting Handle Loader) : Builder Loader → List (Host Loader) →
    List (Host Loader) → Except Fault Unit × Builder Loader → Prop where
  | idle {builder : Builder Loader} (queue : builder.queue = []) :
    Drains setting builder [] [] (.ok (), builder)
  | pass {builder : Builder Loader} {host : Host Loader} {rest left mapped : List (Host Loader)}
    {ending : Except Fault Unit × Builder Loader} (queue : builder.queue = host :: rest)
    (known : host.identity ∈ builder.keys)
    (behind : Drains setting (builder.dequeue host rest) left mapped ending) :
    Drains setting builder (host :: left) mapped ending
  | map {builder after : Builder Loader} {host : Host Loader}
    {rest left mapped : List (Host Loader)} {ending : Except Fault Unit × Builder Loader}
    (queue : builder.queue = host :: rest) (new : host.identity ∉ builder.keys)
    (step : outcome (mapHost setting host) (builder.dequeue host rest) = (.ok (), after))
    (behind : Drains setting after left mapped ending) :
    Drains setting builder (host :: left) (host :: mapped) ending
  | fail {builder after : Builder Loader} {host : Host Loader} {rest : List (Host Loader)}
    {fault : Fault} (queue : builder.queue = host :: rest) (new : host.identity ∉ builder.keys)
    (step : outcome (mapHost setting host) (builder.dequeue host rest) = (.error fault, after)) :
    Drains setting builder [host] [host] (.error fault, after)

namespace Drains

variable {builder : Builder Loader} {left mapped : List (Host Loader)}
  {ending : Except Fault Unit × Builder Loader}

/-- The loop ends in the same way under every limit that leaves it enough steps. -/
theorem outcome_drain (drains : Drains setting builder left mapped ending) {limit : Nat}
    (room : left.length ≤ limit) : outcome (drain setting limit) builder = ending := by
  induction drains generalizing limit with
  | idle queue => exact outcome_drain_nil queue limit
  | @pass builder host rest left mapped ending queue known behind ih =>
    obtain ⟨limit, rfl⟩ := Nat.exists_eq_add_of_lt (Nat.lt_of_lt_of_le (Nat.succ_pos _) room)
    rw [Nat.zero_add, List.length_cons] at room
    have passed : outcome (mapHost setting host) (builder.dequeue host rest) =
        (.ok (), builder.dequeue host rest) := outcome_mapHost_of_cached known
    rw [Nat.zero_add, outcome_drain_cons queue, passed]
    exact ih (Nat.le_of_succ_le_succ room)
  | map queue new step behind ih =>
    obtain ⟨limit, rfl⟩ := Nat.exists_eq_add_of_lt (Nat.lt_of_lt_of_le (Nat.succ_pos _) room)
    rw [Nat.zero_add, List.length_cons] at room
    rw [Nat.zero_add, outcome_drain_cons queue, step]
    exact ih (Nat.le_of_succ_le_succ room)
  | fail queue new step =>
    obtain ⟨limit, rfl⟩ := Nat.exists_eq_add_of_lt (Nat.lt_of_lt_of_le (Nat.succ_pos _) room)
    rw [Nat.zero_add, outcome_drain_cons queue, step]

end Drains

/-- Mapping a type that has left the queue loads the members of that type only. -/
theorem mapHost_withSource (source : MemberSource Loader) {host : Host Loader}
    (same : host.kind = .object → host.members source = host.members setting.source) :
    mapHost { setting with source := source } host = mapHost setting host := by
  have mapping : (setting.mapper.withSource source).mapType host =
      setting.mapper.mapType host := Mapper.mapType_withSource source same
  rw [show setting.mapper.withSource source =
    ({ setting with source := source } : Setting Handle Loader).mapper from rfl] at mapping
  rw [mapHost, mapHost, mapping]

/-- The loop over the queue loads the members of the objects that it maps, and no others. -/
theorem Drains.withSource (source : MemberSource Loader) {builder : Builder Loader}
    {left mapped : List (Host Loader)} {ending : Except Fault Unit × Builder Loader}
    (drains : Drains setting builder left mapped ending)
    (same : ∀ host ∈ mapped, host.kind = .object →
      host.members source = host.members setting.source) :
    Drains { setting with source := source } builder left mapped ending := by
  induction drains with
  | idle queue => exact .idle queue
  | pass queue known behind ih => exact .pass queue known (ih same)
  | map queue new step behind ih =>
    rw [List.forall_mem_cons] at same
    exact .map queue new ((mapHost_withSource source same.1).symm ▸ step) (ih same.2)
  | fail queue new step =>
    rw [List.forall_mem_singleton] at same
    exact .fail queue new ((mapHost_withSource source same).symm ▸ step)

end TypeContracts.Graph

namespace TypeContracts.Builder

open TypeContracts.Graph Mapping

variable {Loader : Type} {options : Options} {targets : List (String × HandWritten)}
  {property : Host Loader → Prop}

/-! ## What one step adds -/

/-- What a step puts behind the queue: types of the given sort whose identities have not been
declared before. -/
structure Grows (sort : Host Loader → Prop) (before after : Builder Loader) : Prop where
  queued : after.Queued
  keys : before.keys ⊆ after.keys
  queue : ∃ added, after.queue = before.queue ++ added ∧
    ∀ host ∈ added, sort host ∧ host.identity ∉ before.keys

namespace Grows

variable {sort : Host Loader → Prop} {first second third : Builder Loader}

theorem refl (queued : first.Queued) : Grows sort first first :=
  ⟨queued, fun _ => id, [], (List.append_nil _).symm, by simp⟩

theorem trans (early : Grows sort first second) (late : Grows sort second third) :
    Grows sort first third := by
  obtain ⟨added, queue, new⟩ := early.queue
  obtain ⟨added', queue', new'⟩ := late.queue
  refine ⟨late.queued, fun _ member => late.keys (early.keys member), added ++ added', ?_, ?_⟩
  · rw [queue', queue, List.append_assoc]
  · rw [List.forall_mem_append]
    exact ⟨new, fun host member =>
      ⟨(new' host member).1, fun known => (new' host member).2 (early.keys known)⟩⟩

theorem register (queued : first.Queued) (declaration : Declaration) :
    Grows sort first (first.register declaration) :=
  ⟨queued.register declaration, keys_subset_register declaration first, [],
    (queue_register declaration first).trans (List.append_nil _).symm, by simp⟩

theorem require (queued : first.Queued) {host : Host Loader} (holds : sort host) :
    Grows sort first (first.require host) := by
  obtain ⟨queued', cache, queue⟩ := queued.require host
  have same : (first.require host).keys = first.keys := congrArg (List.map Prod.fst) cache
  refine ⟨queued', fun _ member => same ▸ member, _, queue, fun item member => ?_⟩
  obtain ⟨listed, unseen⟩ := mem_of_mem_firsts member
  rw [List.mem_append, not_or] at unseen
  rw [List.mem_singleton.mp listed] at unseen ⊢
  exact ⟨holds, unseen.1⟩

/-- Requests put types behind the queue that they ask for. -/
theorem of_requests {hosts : List (Host Loader)}
    (asks : Requests services options targets property hosts first second) (queued : first.Queued)
    (holds : ∀ host ∈ hosts, sort host) : Grows sort first second := by
  induction asks with
  | done s => exact .refl queued
  | require rest ih =>
    rw [List.forall_mem_cons] at holds
    have early := Grows.require queued holds.1
    exact early.trans (ih early.queued holds.2)
  | @register declaration hosts s t synthesized rest ih =>
    have early : Grows sort s (s.register declaration) := .register queued declaration
    exact early.trans (ih early.queued holds)

theorem registerAll (queued : first.Queued) (declarations : List Declaration) :
    Grows sort first (declarations.foldl (fun b d => b.register d) first) := by
  induction declarations generalizing first with
  | nil => exact .refl queued
  | cons declaration rest ih =>
    have early : Grows sort first (first.register declaration) := .register queued declaration
    exact early.trans (ih early.queued)

end Grows

end TypeContracts.Builder

namespace TypeContracts.Graph

open MappingM Mapping

variable {Handle Loader : Type} {setting : Setting Handle Loader}
  {targets : List (String × HandWritten)} {roots : List Handle}

/-- The builder grows by reachable objects and enumerations that are not claimed. -/
def Discovers (setting : Setting Handle Loader) (targets : List (String × HandWritten))
    (roots : List Handle) (before after : Builder Loader) : Prop :=
  before.Grows (fun host => Reachable setting targets roots host ∧ owns targets host = true) after

/-- A type whose declarations have been registered is declared itself, or the step fails. -/
theorem Discovers.registerAll {before middle after : Builder Loader} {host : Host Loader}
    (early : Discovers setting targets roots before middle) {declarations : List Declaration}
    (done : settle host middle (.ok (.declarations declarations)) = (.ok (), after)) :
    Discovers setting targets roots before after ∧ host.identity ∈ after.keys := by
  obtain ⟨rfl, declared⟩ := settle_declarations_iff.mp done
  exact ⟨early.trans (.registerAll early.queued declarations), declared⟩

/-- Mapping a reachable type puts reachable objects and enumerations behind the queue, and declares
the type if it is one itself. -/
theorem discovers_mapHost (pointed : setting.override.PointsTo targets) {host : Host Loader}
    (reached : Reachable setting targets roots host) {before after : Builder Loader}
    (queued : before.Queued) (new : host.identity ∉ before.keys)
    (done : outcome (mapHost setting host) before = (.ok (), after)) :
    Discovers setting targets roots before after ∧
      (owns targets host = true → host.identity ∈ after.keys) := by
  obtain ⟨mapped, middle, maps, rest⟩ := exists_maps_of_mapHost pointed reached new done
  have begun : Discovers setting targets roots before (before.report (.mapping host.identity)) :=
    ⟨⟨queued.pending, queued.nodup⟩, fun _ => id, [], (List.append_nil _).symm, by simp⟩
  have asked : ∀ {found : List (Host Loader)},
      successors targets setting.source host = .ok found →
        Mapping.Requests Builder.services setting.options targets
          (Reachable setting targets roots) found (before.report (.mapping host.identity)) middle →
            Discovers setting targets roots before middle := fun next asks =>
    begun.trans (.of_requests asks begun.queued (reached.of_mem_successors next))
  cases maps with
  | claimed reference taken =>
    cases rest
    have foreign := owns_of_claimed taken
    exact ⟨⟨⟨queued.pending, queued.nodup⟩, begun.keys, begun.queue⟩, by simp [foreign]⟩
  | object properties free kind next asks =>
    exact ((asked next asks).registerAll rest).imp_right fun declared _ => declared
  | enumeration free kind => exact (begun.registerAll rest).imp_right fun declared _ => declared
  | date free kind style => exact (begun.registerAll rest).imp_right fun declared _ => declared
  | inline reference free plain asks =>
    have foreign : owns targets host = false := owns_of_plain plain
    have early := asked (successors_of_plain free plain) asks
    cases rest
    exact ⟨⟨⟨early.queued.pending, early.queued.nodup⟩, early.keys, early.queue⟩,
      by simp [foreign]⟩

/-! ## The budget of a walk -/

/-- Reachable types with the same identity have the same shape. -/
def Shaped (setting : Setting Handle Loader) (targets : List (String × HandWritten))
    (roots : List Handle) : Prop :=
  ∀ a b, Reachable setting targets roots a → Reachable setting targets roots b →
    a.identity = b.identity → a.kind = b.kind

/-- The identities of the objects and enumerations that can be reached. -/
def declaredIdentities (setting : Setting Handle Loader) (targets : List (String × HandWritten))
    (roots : List Handle) : Set Identity :=
  {identity | ∃ host, Reachable setting targets roots host ∧ host.kind.isDeclared = true ∧
    host.identity = identity}

/-- An identity leaves the queue at most twice, once if it has no declaration of its own, and is
mapped at most once. -/
structure Frugal (targets : List (String × HandWritten)) (left mapped : List (Host Loader)) :
    Prop where
  often : ∀ host ∈ left, (left.map Host.identity).count host.identity ≤
    if owns targets host then 2 else 1
  once : (mapped.map Host.identity).Nodup

/-- How far a walk has come when the given types have left the queue and been mapped. -/
structure Budgeted (setting : Setting Handle Loader) (targets : List (String × HandWritten))
    (roots : List Handle) (left mapped : List (Host Loader)) (builder : Builder Loader) :
    Prop where
  queued : builder.Queued
  reached : ∀ host ∈ left ++ builder.queue, Reachable setting targets roots host
  settled : ∀ host ∈ left, owns targets host = true → host.identity ∈ builder.keys
  foreign : (left ++ builder.queue).countP (fun host => !owns targets host) ≤ roots.length
  among : mapped ⊆ left
  frugal : Frugal targets (left ++ builder.queue) mapped

theorem Shaped.owns_eq (shaped : Shaped setting targets roots) {a b : Host Loader}
    (first : Reachable setting targets roots a) (second : Reachable setting targets roots b)
    (same : a.identity = b.identity) : owns targets a = owns targets b := by
  have names : a.fullName = b.fullName := by
    have equal := congrArg Identity.fullName same
    cases a
    cases b
    simpa only [Host.identity] using equal
  rw [owns, owns, isClaimed, isClaimed, names, shaped a b first second same]

/-- What holds of a list of types that leave the queue holds of its first part. -/
theorem Frugal.of_append {left more mapped : List (Host Loader)}
    (frugal : Frugal targets (left ++ more) mapped) : Frugal targets left mapped := by
  refine ⟨fun host member => ?_, frugal.once⟩
  refine Nat.le_trans ?_ (frugal.often host (List.mem_append_left _ member))
  rw [List.map_append, List.count_append]
  exact Nat.le_add_right _ _

/-- Once the roots are queued, nothing has left the queue. -/
theorem budgeted_enqueueRoots {start : Builder Loader}
    (enqueued : outcome (enqueueRoots setting roots) {} = (.ok (), start)) :
    Budgeted setting targets roots [] [] start := by
  have empty : ({} : Builder Loader).Queued := ⟨rfl, List.nodup_nil⟩
  obtain ⟨hosts, described, queued, _, queue⟩ := queued_enqueueRoots empty enqueued
  have queue' : start.queue = firsts Host.identity [] hosts := queue
  have sublist : (firsts Host.identity [] hosts).Sublist hosts := firsts_sublist _ _
  have lengths := (Result.mapM_eq_ok_iff.mp described).length_eq
  refine ⟨queued, fun host member => ?_, by simp, ?_, by simp, fun host _ => ?_, List.nodup_nil⟩
  · rw [List.nil_append, queue'] at member
    obtain ⟨handle, listed, found⟩ := (Result.mem_mapM_iff described).mp (sublist.subset member)
    exact .root listed found
  · rw [List.nil_append, queue', lengths]
    exact Nat.le_trans List.countP_le_length sublist.length_le
  · have most := List.nodup_iff_count_le_one.mp queued.nodup host.identity
    rw [List.nil_append]
    refine Nat.le_trans most ?_
    split_ifs <;> omega

/-- A list whose items are among finitely many, and come up so often at most, is so long at most. -/
theorem length_le_of_count_le {α : Type} [DecidableEq α] {items : List α} {among : Finset α}
    {most : Nat} (inside : ∀ item ∈ items, item ∈ among)
    (often : ∀ item ∈ items, items.count item ≤ most) : items.length ≤ most * among.card := by
  have subset : items.toFinset ⊆ among := fun item member => inside item (List.mem_toFinset.mp member)
  calc items.length
      = ∑ item ∈ items.toFinset, items.count item := (List.sum_toFinset_count_eq_length items).symm
    _ ≤ items.toFinset.card • most :=
        Finset.sum_le_card_nsmul _ _ _ fun item member => often item (List.mem_toFinset.mp member)
    _ = most * items.toFinset.card := by rw [Nat.nsmul_eq_mul, Nat.mul_comm]
    _ ≤ most * among.card := Nat.mul_le_mul_left _ (Finset.card_le_card subset)

namespace Budgeted

variable {left mapped : List (Host Loader)} {builder : Builder Loader}

/-- A declared type that leaves the queue is passed over. -/
theorem pass (budgeted : Budgeted setting targets roots left mapped builder) {host : Host Loader}
    {rest : List (Host Loader)} (queue : builder.queue = host :: rest)
    (known : host.identity ∈ builder.keys) :
    Budgeted setting targets roots (left ++ [host]) mapped (builder.dequeue host rest) := by
  have history : (left ++ [host]) ++ (builder.dequeue host rest).queue = left ++ builder.queue := by
    rw [queue, List.append_assoc]
    rfl
  refine ⟨(budgeted.queued.dequeue queue).1, ?_, ?_, ?_, ?_, ?_⟩
  · rw [history]
    exact budgeted.reached
  · rw [List.forall_mem_append, List.forall_mem_singleton]
    exact ⟨budgeted.settled, fun _ => known⟩
  · rw [history]
    exact budgeted.foreign
  · exact fun _ member => List.mem_append_left _ (budgeted.among member)
  · rw [history]
    exact budgeted.frugal

/-- A type that is not declared when it leaves the queue has not been mapped before. -/
theorem once_concat (shaped : Shaped setting targets roots)
    (budgeted : Budgeted setting targets roots left mapped builder) {host : Host Loader}
    {rest : List (Host Loader)} (queue : builder.queue = host :: rest)
    (new : host.identity ∉ builder.keys) : ((mapped ++ [host]).map Host.identity).Nodup := by
  rw [List.map_append, List.map_singleton, ← List.concat_eq_append]
  refine .concat (fun again => ?_) budgeted.frugal.once
  obtain ⟨earlier, member, same⟩ := List.mem_map.mp again
  have inside := budgeted.among member
  have waiting : host ∈ left ++ builder.queue := by
    rw [queue]
    exact List.mem_append_right _ List.mem_cons_self
  have equal := shaped.owns_eq (budgeted.reached earlier (List.mem_append_left _ inside))
    (budgeted.reached host waiting) same
  cases owned : owns targets host with
  | true => exact new (same ▸ budgeted.settled earlier inside (equal.trans owned))
  | false =>
    -- The type has left the queue and waits, but it can come up once only.
    have most := budgeted.frugal.often host waiting
    have before : 0 < (left.map Host.identity).count host.identity :=
      List.count_pos_iff.mpr (List.mem_map.mpr ⟨earlier, inside, same⟩)
    rw [owned, queue, List.map_append, List.count_append, List.map_cons, List.count_cons_self]
      at most
    simp only [Bool.false_eq_true, if_false] at most
    omega

/-- A type that is not declared when it leaves the queue is mapped. -/
theorem map (pointed : setting.override.PointsTo targets) (shaped : Shaped setting targets roots)
    (budgeted : Budgeted setting targets roots left mapped builder) {host : Host Loader}
    {rest : List (Host Loader)} (queue : builder.queue = host :: rest)
    (new : host.identity ∉ builder.keys) {after : Builder Loader}
    (step : outcome (mapHost setting host) (builder.dequeue host rest) = (.ok (), after)) :
    Budgeted setting targets roots (left ++ [host]) (mapped ++ [host]) after := by
  have reached : Reachable setting targets roots host :=
    budgeted.reached host (by rw [queue]; exact List.mem_append_right _ List.mem_cons_self)
  obtain ⟨grows, declared⟩ :=
    discovers_mapHost pointed reached (budgeted.queued.dequeue queue).1 new step
  obtain ⟨added, queue', fresh⟩ := grows.queue
  have history : (left ++ [host]) ++ after.queue = (left ++ builder.queue) ++ added := by
    rw [queue', queue, List.append_assoc, List.append_assoc]
    rfl
  have settled : ∀ earlier ∈ left ++ [host], owns targets earlier = true →
      earlier.identity ∈ after.keys := by
    rw [List.forall_mem_append, List.forall_mem_singleton]
    exact ⟨fun earlier inside owned => grows.keys (budgeted.settled earlier inside owned),
      declared⟩
  -- What is added has not left the queue before, and waits once now.
  have twice : ∀ successor ∈ added,
      (((left ++ builder.queue) ++ added).map Host.identity).count successor.identity ≤ 2 := by
    intro successor member
    obtain ⟨⟨reached', owned⟩, unknown⟩ := fresh successor member
    have stays : successor.identity ∉ left.map Host.identity := by
      intro again
      obtain ⟨earlier, inside, same⟩ := List.mem_map.mp again
      have equal := shaped.owns_eq (budgeted.reached earlier (List.mem_append_left _ inside))
        reached' same
      exact unknown (same ▸ budgeted.settled earlier inside (equal.trans owned))
    have most := List.nodup_iff_count_le_one.mp grows.queued.nodup successor.identity
    rw [Builder.waiting] at most
    rw [← history, List.map_append, List.map_append, List.count_append, List.count_append,
      List.count_eq_zero_of_not_mem stays]
    have single : ([host].map Host.identity).count successor.identity ≤ 1 := List.count_le_length
    omega
  refine ⟨grows.queued, ?_, settled, ?_, ?_, ?_, budgeted.once_concat shaped queue new⟩
  · rw [history, List.forall_mem_append]
    exact ⟨budgeted.reached, fun successor member => (fresh successor member).1.1⟩
  · have own : added.countP (fun host => !owns targets host) = 0 := by
      rw [List.countP_eq_zero]
      intro successor member
      simp [(fresh successor member).1.2]
    rw [history, List.countP_append, own]
    exact budgeted.foreign
  · rw [List.append_subset]
    exact ⟨fun _ member => List.mem_append_left _ (budgeted.among member),
      List.subset_append_right _ _⟩
  · have reachable : ∀ item ∈ (left ++ builder.queue) ++ added,
        Reachable setting targets roots item := by
      rw [List.forall_mem_append]
      exact ⟨budgeted.reached, fun successor member => (fresh successor member).1.1⟩
    rw [history]
    intro other member
    by_cases again : other.identity ∈ added.map Host.identity
    · obtain ⟨successor, inside, same⟩ := List.mem_map.mp again
      obtain ⟨⟨reached', owned⟩, _⟩ := fresh successor inside
      rw [← shaped.owns_eq reached' (reachable other member) same, owned, if_pos rfl, ← same]
      exact twice successor inside
    · have old : other ∈ left ++ builder.queue :=
        (List.mem_append.mp member).resolve_right fun inside =>
          again (List.mem_map_of_mem inside)
      rw [List.map_append, List.count_append, List.count_eq_zero_of_not_mem again]
      exact budgeted.frugal.often other old

/-- Only so many types can come up at all. -/
theorem length_le (finite : (declaredIdentities setting targets roots).Finite)
    (budgeted : Budgeted setting targets roots left mapped builder) :
    (left ++ builder.queue).length ≤
      2 * (declaredIdentities setting targets roots).ncard + roots.length := by
  generalize history : left ++ builder.queue = come
  obtain ⟨_, reached, _, foreign, _, frugal⟩ := budgeted
  rw [history] at reached foreign frugal
  have own : come.countP (owns targets) ≤
      2 * (declaredIdentities setting targets roots).ncard := by
    rw [List.countP_eq_length_filter, ← List.length_map Host.identity,
      Set.ncard_eq_toFinset_card _ finite]
    refine length_le_of_count_le ?_ ?_ <;> intro identity member <;>
      obtain ⟨host, listed, rfl⟩ := List.mem_map.mp member <;>
      obtain ⟨listed, owned⟩ := List.mem_filter.mp listed
    · rw [Set.Finite.mem_toFinset]
      exact ⟨host, reached host listed, (owns_iff.mp owned).2, rfl⟩
    · have most := frugal.often host listed
      rw [owned, if_pos rfl] at most
      have part := (List.filter_sublist (p := owns targets) (l := come)).map Host.identity
      exact Nat.le_trans (part.count_le host.identity) most
  have whole : come.length = come.countP (owns targets) +
      come.countP fun host => !owns targets host := by
    rw [List.length_eq_countP_add_countP (owns targets)]
    simp
  omega

/-- A walk that has come so far ends. -/
theorem exists_drains (pointed : setting.override.PointsTo targets)
    (shaped : Shaped setting targets roots)
    (finite : (declaredIdentities setting targets roots).Finite)
    (budgeted : Budgeted setting targets roots left mapped builder) :
    ∃ left' mapped' ending, Drains setting builder left' mapped' ending ∧
      Frugal targets (left ++ left') (mapped ++ mapped') ∧
      (left ++ left').length ≤
        2 * (declaredIdentities setting targets roots).ncard + roots.length := by
  -- Each step brings the walk closer to the number of types that can come up.
  induction steps : 2 * (declaredIdentities setting targets roots).ncard + roots.length -
      left.length generalizing left mapped builder with
  | zero =>
    have room := budgeted.length_le finite
    rw [List.length_append] at room
    have queue : builder.queue = [] := List.eq_nil_of_length_eq_zero (by omega)
    refine ⟨[], [], _, .idle queue, ?_, ?_⟩
    · rw [List.append_nil, List.append_nil]
      exact budgeted.frugal.of_append
    · rw [List.append_nil]
      omega
  | succ further ih =>
    have room := budgeted.length_le finite
    cases queue : builder.queue with
    | nil =>
      refine ⟨[], [], _, .idle queue, ?_, ?_⟩
      · rw [List.append_nil, List.append_nil]
        exact budgeted.frugal.of_append
      · rw [List.append_nil]
        omega
    | cons host rest =>
      have closer : 2 * (declaredIdentities setting targets roots).ncard + roots.length -
          (left ++ [host]).length = further := by
        rw [List.length_append, List.length_singleton]
        omega
      by_cases known : host.identity ∈ builder.keys
      · obtain ⟨left', mapped', ending, drains, frugal, bound⟩ :=
          ih (budgeted.pass queue known) closer
        rw [List.append_assoc] at frugal bound
        exact ⟨host :: left', mapped', ending, .pass queue known drains, frugal, bound⟩
      · rcases step : outcome (mapHost setting host) (builder.dequeue host rest) with
          ⟨fault | _, after⟩
        · have front : left ++ builder.queue = (left ++ [host]) ++ rest := by
            rw [queue, List.append_assoc]
            rfl
          have frugal := budgeted.frugal
          rw [front] at room frugal
          rw [List.length_append] at room
          exact ⟨[host], [host], _, .fail queue known step,
            ⟨frugal.of_append.often, budgeted.once_concat shaped queue known⟩, by omega⟩
        · obtain ⟨left', mapped', ending, drains, frugal, bound⟩ :=
            ih (budgeted.map pointed shaped queue known step) closer
          rw [List.append_assoc, List.append_assoc] at frugal
          rw [List.append_assoc] at bound
          exact ⟨host :: left', host :: mapped', ending, .map queue known step drains, frugal,
            bound⟩

end Budgeted

/-- When an override points at hand-written types at most, reachable types with the same identity
have the same shape, and finitely many identities of objects and enumerations can be reached, the
walk of a new builder ends: the loop over the queue comes to a result or to a fault. An identity
leaves the queue twice at most, and once if it has no declaration of its own, and is mapped once at
most. Only the members of the mapped objects are loaded. -/
theorem frugal_walk (pointed : setting.override.PointsTo targets)
    (shaped : Shaped setting targets roots)
    (finite : (declaredIdentities setting targets roots).Finite) :
    (∃ ending, ∀ limit, 2 * (declaredIdentities setting targets roots).ncard + roots.length ≤ limit →
      outcome (walk setting limit roots) {} = ending) ∧
    ∀ start, outcome (enqueueRoots setting roots) {} = (.ok (), start) →
      ∃ left mapped ending, Drains setting start left mapped ending ∧ Frugal targets left mapped ∧
        left.length ≤ 2 * (declaredIdentities setting targets roots).ncard + roots.length ∧
        (∀ limit, left.length ≤ limit → outcome (walk setting limit roots) {} = ending) ∧
        ∀ source, (∀ host ∈ mapped, host.kind = .object →
            host.members source = host.members setting.source) →
          Drains { setting with source := source } start left mapped ending := by
  have ends : ∀ start, outcome (enqueueRoots setting roots) {} = (.ok (), start) →
      ∃ left mapped ending, Drains setting start left mapped ending ∧ Frugal targets left mapped ∧
        left.length ≤ 2 * (declaredIdentities setting targets roots).ncard + roots.length ∧
        ∀ limit, left.length ≤ limit → outcome (walk setting limit roots) {} = ending := by
    intro start enqueued
    have begun : Budgeted setting targets roots [] [] start := budgeted_enqueueRoots enqueued
    obtain ⟨left, mapped, ending, drains, frugal, bound⟩ :=
      begun.exists_drains pointed shaped finite
    refine ⟨left, mapped, ending, drains, frugal, bound, fun limit room => ?_⟩
    rw [walk, outcome_bind, enqueued]
    exact drains.outcome_drain room
  constructor
  · rcases enqueued : outcome (enqueueRoots setting roots) {} with ⟨fault | _, start⟩
    · refine ⟨(.error fault, start), fun limit _ => ?_⟩
      rw [walk, outcome_bind, enqueued]
    · obtain ⟨left, mapped, ending, _, _, bound, ended⟩ := ends start enqueued
      exact ⟨ending, fun limit room => ended limit (Nat.le_trans bound room)⟩
  · intro start enqueued
    obtain ⟨left, mapped, ending, drains, frugal, bound, ended⟩ := ends start enqueued
    exact ⟨left, mapped, ending, drains, frugal, bound, ended, fun source => drains.withSource source⟩

/-- The walk of two types that refer to each other ends. -/
theorem frugal_walk_library :
    ∃ start left mapped ending, outcome (enqueueRoots library [0]) {} = (.ok (), start) ∧
      Drains library start left mapped ending ∧ Frugal [] left mapped ∧
      left.length ≤ 2 * (declaredIdentities library [] [0]).ncard + 1 ∧
      outcome (walk library left.length [0]) {} = ending := by
  have finite : (declaredIdentities library [] [0]).Finite := by
    refine (List.finite_toSet [author.identity, books.identity, book.identity]).subset ?_
    rintro _ ⟨host, reached, _, rfl⟩
    have inside := reachable_library reached
    simp only [List.mem_cons, List.not_mem_nil, or_false] at inside
    rcases inside with rfl | rfl | rfl | rfl <;> simp
  obtain ⟨_, drained⟩ := frugal_walk (.inl ⟨rfl, rfl⟩)
    (fun a b first second same => (coherent_library.agree a b first second same).kind) finite
  obtain ⟨left, mapped, ending, drains, frugal, bound, ended, _⟩ := drained _ rfl
  exact ⟨_, left, mapped, ending, rfl, drains, frugal, bound, ended _ (Nat.le_refl _)⟩

end TypeContracts.Graph
