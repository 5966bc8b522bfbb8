import Mathlib
import TypeContracts.Proofs.Graph.Builder
import TypeContracts.Proofs.Graph.Reachable
import TypeContracts.Proofs.Graph.Script
import TypeContracts.Proofs.Result

/-!
# A walk explores breadth first

The queue of a walk and that of a breadth-first exploration differ in one way only: an
object that refers to itself waits once more while it is mapped, and is passed over later
because it is declared by then. Without the types that are declared already, the two
queues are the same (`Graph.remaining`). One step of the walk keeps that, and is a step of
the exploration unless it passes a type over (`Graph.explored_step`).

So the cache of a walk holds the objects and enumerations in the order in which they are
discovered, nothing that is not reachable, and everything that is
(`Graph.breadthFirst_walk`).
-/

set_option autoImplicit false

namespace TypeContracts.Graph

open MappingM Mapping

variable {Handle Loader : Type} {setting : Setting Handle Loader}
  {targets : List (String × HandWritten)} {roots : List Handle}

/-! ## Caches and queues -/

/-- The identities that are declared as themselves, without the aliases for nullable types
and for dates. -/
def ownKeys (cache : List (Identity × Declaration)) : List Identity :=
  (cache.filter fun entry => !isSynthesized entry.2).map Prod.fst

theorem ownKeys_append (front behind : List (Identity × Declaration)) :
    ownKeys (front ++ behind) = ownKeys front ++ ownKeys behind := by
  rw [ownKeys, List.filter_append, List.map_append, ownKeys, ownKeys]

/-- The queue without the objects and enumerations that are declared already. -/
def remaining (builder : Builder Loader) : List (Host Loader) :=
  builder.queue.filter fun host => !(host.kind.isDeclared && builder.isCached host.identity)

/-- What a walk keeps between two types that it maps. -/
structure Walking (setting : Setting Handle Loader) (targets : List (String × HandWritten))
    (roots : List Handle) (builder : Builder Loader) : Prop where
  queued : builder.Queued
  reached : ∀ host ∈ builder.queue, Reachable setting targets roots host
  justified : ∀ entry ∈ builder.cache, Justified setting targets roots entry

/-- An identity of the cache has an entry that a reachable type accounts for. -/
theorem Walking.exists_justified {builder : Builder Loader}
    (walking : Walking setting targets roots builder) {identity : Identity}
    (known : identity ∈ builder.keys) :
    ∃ entry ∈ builder.cache, entry.1 = identity ∧ Justified setting targets roots entry := by
  obtain ⟨entry, member, same⟩ := List.mem_map.mp known
  exact ⟨entry, member, same, walking.justified entry member⟩

/-! ## Mapping one type -/

/-- What mapping a type that is not declared yet adds to a builder: the first occurrences of
its successors behind the queue, and behind the cache aliases and its own declaration, if
it has one. -/
structure Explored (setting : Setting Handle Loader) (targets : List (String × HandWritten))
    (roots : List Handle) (host : Host Loader) (found : List (Host Loader))
    (before after : Builder Loader) : Prop where
  next : successors targets setting.source host = .ok found
  queued : after.Queued
  queue : after.queue = before.queue ++ firsts Host.identity (before.keys ++ before.waiting) found
  cache : ∃ extra, after.cache = before.cache ++ extra ∧
    (∀ entry ∈ extra, Justified setting targets roots entry) ∧
    ownKeys extra = if owns targets host then [host.identity] else []

/-- Requests of a reachable type have the effect of requests, as the aliases keep apart from
what is asked for. -/
theorem effect_of_reachable (coherent : Coherent setting targets roots) {host : Host Loader}
    (reached : Reachable setting targets roots host) {found : List (Host Loader)}
    (next : successors targets setting.source host = .ok found) {s t : Builder Loader}
    (queued : s.Queued)
    (asks : Requests Builder.services setting.options targets (Reachable setting targets roots)
      found s t) :
    t.Queued ∧ t.queue = s.queue ++ firsts Host.identity (s.keys ++ s.waiting) found ∧
      ∃ extra, t.cache = s.cache ++ extra ∧
        (∀ entry ∈ extra, Justified setting targets roots entry) ∧ ownKeys extra = [] ∧
        ∀ entry ∈ extra, host.kind.isDeclared = true → entry.1 ≠ host.identity := by
  obtain ⟨queued', queue, extra, cache, synthesized⟩ :=
    Builder.effect_of_requests asks queued fun successor member declaration alias' => by
      obtain ⟨reached', owned⟩ := reached.of_mem_successors next successor member
      exact coherent.synthesized_ne alias' reached' (owns_iff.mp owned).2
  refine ⟨queued', queue, extra, cache, ?_, ?_, ?_⟩
  · intro entry member
    obtain ⟨declaration, name, alias', rfl⟩ := synthesized entry member
    exact .synthesized name alias'
  · rw [ownKeys, List.filter_eq_nil_iff.mpr, List.map_nil]
    intro entry member
    obtain ⟨declaration, name, alias', rfl⟩ := synthesized entry member
    simp [isSynthesized_of_synthesized alias' name]
  · intro entry member declared
    obtain ⟨declaration, name, alias', rfl⟩ := synthesized entry member
    exact coherent.synthesized_ne alias' reached declared

/-- A declaration whose identity is new is put behind the cache, and nothing else happens. -/
theorem registered {declaration : Declaration} {builder : Builder Loader} (queued : builder.Queued)
    (new : declaration.identity ∉ builder.keys) :
    (builder.register declaration).Queued ∧
      (builder.register declaration).queue = builder.queue ∧
      ∃ name, (builder.register declaration).cache =
        builder.cache ++ [(declaration.identity, declaration.rename name)] := by
  refine ⟨queued.register declaration, ?_⟩
  rcases Builder.register_spec declaration builder with
    ⟨known, _⟩ | ⟨_, name, taken, journal, added⟩
  · exact absurd known new
  · rw [added]
    exact ⟨rfl, name, rfl⟩

/-- Registering the declaration that a type was mapped to explores the type, when only
aliases were registered on the way. -/
theorem explored_register {host : Host Loader} {found : List (Host Loader)}
    {before middle after : Builder Loader} {extra : List (Identity × Declaration)}
    (next : successors targets setting.source host = .ok found) (queued : middle.Queued)
    (queue : middle.queue =
      before.queue ++ firsts Host.identity (before.keys ++ before.waiting) found)
    (cache : middle.cache = before.cache ++ extra)
    (justified : ∀ entry ∈ extra, Justified setting targets roots entry)
    (others : ownKeys extra = []) {declaration : Declaration}
    (new : declaration.identity ∉ middle.keys)
    (own : ∀ name, Justified setting targets roots
        (declaration.identity, declaration.rename name) ∧
      ownKeys [(declaration.identity, declaration.rename name)] =
        if owns targets host then [host.identity] else [])
    (done : settle host middle (.ok (.declarations [declaration])) = (.ok (), after)) :
    Explored setting targets roots host found before after := by
  obtain ⟨rfl, _⟩ := settle_declarations_iff.mp done
  rw [List.foldl_cons, List.foldl_nil]
  obtain ⟨queued', queue', name, cache'⟩ := registered queued new
  refine ⟨next, queued', queue'.trans queue,
    extra ++ [(declaration.identity, declaration.rename name)], ?_, ?_, ?_⟩
  · rw [cache', cache, List.append_assoc]
  · rw [List.forall_mem_append, List.forall_mem_singleton]
    exact ⟨justified, (own name).1⟩
  · rw [ownKeys_append, others, List.nil_append]
    exact (own name).2

/-- A reachable type that leaves the queue undeclared is mapped in one of the cases, and what it is
mapped to is registered. -/
theorem exists_maps_of_mapHost (pointed : setting.override.PointsTo targets)
    {host : Host Loader} (reached : Reachable setting targets roots host)
    {builder after : Builder Loader} (new : host.identity ∉ builder.keys)
    (done : outcome (mapHost setting host) builder = (.ok (), after)) :
    ∃ mapped middle, setting.mapper.Maps targets (Reachable setting targets roots) host
        (builder.report (.mapping host.identity)) mapped middle ∧
      settle host middle (.ok mapped) = (.ok (), after) := by
  rw [outcome_mapHost_eq_settle, if_neg (mt Builder.isCached_iff.mp new)] at done
  rcases mapping : outcome (setting.mapper.mapType host)
    (builder.report (.mapping host.identity)) with ⟨fault | mapped, middle⟩ <;> rw [mapping] at done
  · cases done
  · exact ⟨mapped, middle, Mapper.maps_of_mapType
      (show setting.mapper.override.PointsTo targets from pointed) partsClosed_reachable reached
      (fun free kind members loaded member listed => .member reached free kind loaded listed)
      mapping, done⟩

/-- Mapping a type that is not declared yet explores it. -/
theorem explored_mapHost (pointed : setting.override.PointsTo targets)
    (coherent : Coherent setting targets roots) {host : Host Loader}
    (reached : Reachable setting targets roots host) {builder after : Builder Loader}
    (queued : builder.Queued) (new : host.identity ∉ builder.keys)
    (done : outcome (mapHost setting host) builder = (.ok (), after)) :
    ∃ found, Explored setting targets roots host found builder after := by
  obtain ⟨mapped, middle, maps, rest⟩ := exists_maps_of_mapHost pointed reached new done
  have queued' : (builder.report (.mapping host.identity)).Queued := ⟨queued.pending, queued.nodup⟩
  cases maps with
  | claimed reference taken =>
    cases rest
    refine ⟨[], successors_of_claimed taken, ⟨queued.pending, queued.nodup⟩,
      (List.append_nil builder.queue).symm, [], (List.append_nil builder.cache).symm, by simp, ?_⟩
    rw [owns_of_claimed taken]
    rfl
  | @object found _ properties free kind next asks =>
    have declared : host.kind.isDeclared = true := by rw [kind]; rfl
    have owned : owns targets host = true := owns_iff.mpr ⟨free, declared⟩
    obtain ⟨queued'', queue, extra, cache, justified, others, apart⟩ :=
      effect_of_reachable coherent reached next queued' asks
    refine ⟨found, explored_register next queued'' queue cache justified others ?_ ?_ rest⟩
    · rw [Builder.keys, cache, List.map_append, List.mem_append, not_or]
      refine ⟨new, fun member => ?_⟩
      obtain ⟨entry, inside, same⟩ := List.mem_map.mp member
      exact apart entry inside declared same
    · intro name
      have plain := isSynthesized_interface (coherent.unreserved host reached) name properties
      exact ⟨.own reached owned plain, by simp [ownKeys, Declaration.rename, plain, owned,
        Declaration.identity]⟩
  | enumeration free kind =>
    have owned : owns targets host = true := owns_iff.mpr ⟨free, by rw [kind]; rfl⟩
    have own : (Mapping.enumeration setting.mapper.options.enumStyle host).identity =
        host.identity := by
      cases setting.mapper.options.enumStyle <;> rfl
    have next : successors targets setting.source host = .ok [] :=
      successors_of_parts_eq_nil free (by rw [kind]; decide) (by rw [Host.parts, kind])
    refine ⟨[], explored_register next queued' (List.append_nil _).symm (List.append_nil _).symm
      (by simp) rfl (own ▸ new) ?_ rest⟩
    intro name
    have plain := isSynthesized_enumeration (coherent.unreserved host reached)
      setting.mapper.options.enumStyle name
    rw [own]
    exact ⟨.own reached owned plain, by simp [ownKeys, plain, owned]⟩
  | date free kind style =>
    have foreign : owns targets host = false := owns_of_plain (by rw [kind]; rfl)
    have own := identity_brandedDate (coherent.dates host reached kind)
    have next : successors targets setting.source host = .ok [] :=
      successors_of_parts_eq_nil free (by rw [kind]; decide) (by rw [Host.parts, kind])
    have synthesized : Synthesized setting.options targets (Reachable setting targets roots)
        (brandedDate host) := .branded reached free kind style
    refine ⟨[], explored_register next queued' (List.append_nil _).symm (List.append_nil _).symm
      (by simp) rfl (own ▸ new) ?_ rest⟩
    intro name
    exact ⟨.synthesized name synthesized,
      by simp [ownKeys, isSynthesized_of_synthesized synthesized name, foreign]⟩
  | inline reference free plain asks =>
    have next : successors targets setting.source host =
        .ok (host.parts.flatMap (occurrences targets)) := successors_of_plain free plain
    obtain ⟨queued'', queue, extra, cache, justified, others, _⟩ :=
      effect_of_reachable coherent reached next queued' asks
    cases rest
    exact ⟨_, next, ⟨queued''.pending, queued''.nodup⟩, queue, extra, cache, justified,
      by rw [others, owns_of_plain plain]; rfl⟩

/-! ## The queue of a walk and that of an exploration -/

/-- The keys that are seen are those that are declared or wait, as far as types with
declarations of their own are concerned. -/
def SeenBy (setting : Setting Handle Loader) (targets : List (String × HandWritten))
    (roots : List Handle) (seen known : List Identity) : Prop :=
  ∀ host, Reachable setting targets roots host → owns targets host = true →
    (host.identity ∈ seen ↔ host.identity ∈ known)

theorem SeenBy.congr {seen known known' : List Identity}
    (seenBy : SeenBy setting targets roots seen known)
    (same : ∀ identity, identity ∈ known ↔ identity ∈ known') :
    SeenBy setting targets roots seen known' :=
  fun host reached owned => (seenBy host reached owned).trans (same host.identity)

/-- A type that leaves the queue leaves the types behind it. -/
theorem Walking.dequeue {builder : Builder Loader}
    (walking : Walking setting targets roots builder) {host : Host Loader}
    {rest : List (Host Loader)} (queue : builder.queue = host :: rest) :
    Walking setting targets roots (builder.dequeue host rest) ∧
      host.identity ∉ rest.map Host.identity := by
  obtain ⟨queued, gone⟩ := walking.queued.dequeue queue
  have reached := walking.reached
  rw [queue, List.forall_mem_cons] at reached
  exact ⟨⟨queued, reached.2, walking.justified⟩, gone⟩

namespace Explored

variable {host : Host Loader} {found : List (Host Loader)} {before after : Builder Loader}
  {seen : List Identity}

/-- Of the identities of objects and enumerations, only that of the type itself is newly
declared. -/
theorem declared_iff (explored : Explored setting targets roots host found before after)
    (coherent : Coherent setting targets roots) (reached : Reachable setting targets roots host)
    {other : Host Loader} (reached' : Reachable setting targets roots other)
    (declared : other.kind.isDeclared = true) :
    other.identity ∈ after.keys ↔ other.identity ∈ before.keys ∨
      (owns targets other = true ∧ other.identity = host.identity) := by
  obtain ⟨extra, cache, justified, own⟩ := explored.cache
  rw [Builder.keys, cache, List.map_append, List.mem_append]
  refine or_congr_right ⟨fun member => ?_, fun both => ?_⟩
  · obtain ⟨entry, inside, same⟩ := List.mem_map.mp member
    obtain ⟨owned, plain⟩ :=
      coherent.own_of_justified (justified entry inside) reached' declared same
    have listed : other.identity ∈ ownKeys extra :=
      List.mem_map.mpr ⟨entry, List.mem_filter.mpr ⟨inside, by simp [plain]⟩, same⟩
    rw [own] at listed
    split_ifs at listed
    · exact ⟨owned, List.mem_singleton.mp listed⟩
    · cases listed
  · obtain ⟨owned, same⟩ := both
    have owned' : owns targets host = true :=
      (coherent.agree other host reached' reached same).owns ▸ owned
    have listed : other.identity ∈ ownKeys extra := by
      rw [own, if_pos owned', same]
      exact List.mem_singleton_self _
    obtain ⟨entry, inside, same⟩ := List.mem_map.mp listed
    exact List.mem_map.mpr ⟨entry, (List.mem_filter.mp inside).1, same⟩

/-- The first occurrences that the builder queues are those of the exploration, apart from
the type itself. -/
theorem firsts_eq (explored : Explored setting targets roots host found before after)
    (reached : Reachable setting targets roots host)
    (seenBy : SeenBy setting targets roots seen
      (before.keys ++ before.waiting ++ [host.identity])) :
    (firsts Host.identity (before.keys ++ before.waiting) found).filter
        (fun successor => successor.identity ≠ host.identity) =
      firsts Host.identity seen found := by
  rw [filter_firsts]
  refine firsts_congr fun successor member => ?_
  obtain ⟨reached', owned⟩ := reached.of_mem_successors explored.next successor member
  exact (seenBy successor reached' owned).symm

/-- Behind the type that was explored, the queue of the walk goes on as that of the
exploration does. -/
theorem remaining_eq (explored : Explored setting targets roots host found before after)
    (coherent : Coherent setting targets roots) (reached : Reachable setting targets roots host)
    (walking : Walking setting targets roots before) (gone : host.identity ∉ before.waiting)
    (seenBy : SeenBy setting targets roots seen
      (before.keys ++ before.waiting ++ [host.identity])) :
    remaining after = remaining before ++ firsts Host.identity seen found := by
  rw [remaining, explored.queue, List.filter_append, ← explored.firsts_eq reached seenBy]
  congr 1
  · refine List.filter_congr fun other member => ?_
    cases declared : other.kind.isDeclared with
    | false => rfl
    | true =>
      have same := explored.declared_iff coherent reached (walking.reached other member) declared
      have differ : other.identity ≠ host.identity := fun equal =>
        gone (equal ▸ List.mem_map.mpr ⟨other, member, rfl⟩)
      rw [or_iff_left (fun both => differ both.2), ← Builder.isCached_iff,
        ← Builder.isCached_iff] at same
      rw [Bool.eq_iff_iff.mpr same]
  · refine List.filter_congr fun successor member => ?_
    obtain ⟨inside, fresh⟩ := mem_of_mem_firsts member
    obtain ⟨reached', owned⟩ := reached.of_mem_successors explored.next successor inside
    have declared := (owns_iff.mp owned).2
    have same := explored.declared_iff coherent reached reached' declared
    rw [List.mem_append, not_or] at fresh
    rw [or_iff_right fresh.1, and_iff_right owned, ← Builder.isCached_iff] at same
    rw [declared, Bool.true_and, Bool.eq_iff_iff, Bool.not_eq_true', decide_eq_true_iff, Ne,
      ← same, Bool.not_eq_true]

/-- What was seen stays what is declared or waits. -/
theorem seenBy (explored : Explored setting targets roots host found before after)
    (coherent : Coherent setting targets roots) (reached : Reachable setting targets roots host)
    (seenBy : SeenBy setting targets roots seen
      (before.keys ++ before.waiting ++ [host.identity])) :
    SeenBy setting targets roots (seen ++ (firsts Host.identity seen found).map Host.identity)
      (after.keys ++ after.waiting) := by
  intro other reached' owned
  have declared := explored.declared_iff coherent reached reached' (owns_iff.mp owned).2
  rw [and_iff_right owned] at declared
  rw [Builder.waiting, explored.queue, ← explored.firsts_eq reached seenBy]
  simp only [List.mem_append, declared, seenBy other reached' owned, List.map_append,
    List.mem_map, List.mem_filter, decide_eq_true_iff, List.mem_singleton, Builder.waiting]
  constructor
  · rintro (((old | waits) | same) | ⟨successor, ⟨first, _⟩, same⟩)
    · exact .inl (.inl old)
    · exact .inr (.inl waits)
    · exact .inl (.inr same)
    · exact .inr (.inr ⟨successor, first, same⟩)
  · rintro ((old | same) | waits | ⟨successor, first, same⟩)
    · exact .inl (.inl (.inl old))
    · exact .inl (.inr same)
    · exact .inl (.inl (.inr waits))
    · by_cases itself : successor.identity = host.identity
      · exact .inl (.inr (same.symm.trans itself))
      · exact .inr ⟨successor, ⟨first, itself⟩, same⟩

end Explored

/-- A type that was explored leaves a builder from which the walk goes on. -/
theorem Explored.walking {host : Host Loader} {found : List (Host Loader)}
    {before after : Builder Loader}
    (explored : Explored setting targets roots host found before after)
    (reached : Reachable setting targets roots host)
    (walking : Walking setting targets roots before) : Walking setting targets roots after := by
  obtain ⟨extra, cache, justified, _⟩ := explored.cache
  refine ⟨explored.queued, ?_, ?_⟩
  · rw [explored.queue, List.forall_mem_append]
    exact ⟨walking.reached, fun successor member =>
      (reached.of_mem_successors explored.next successor (mem_of_mem_firsts member).1).1⟩
  · rw [cache, List.forall_mem_append]
    exact ⟨walking.justified, justified⟩

/-- What remains of a queue, by its first type. -/
theorem remaining_cons {builder : Builder Loader} {host : Host Loader} {rest : List (Host Loader)}
    (queue : builder.queue = host :: rest) :
    remaining builder =
      if host.kind.isDeclared && builder.isCached host.identity then
        remaining (builder.dequeue host rest)
      else host :: remaining (builder.dequeue host rest) := by
  rw [remaining, queue, List.filter_cons]
  cases host.kind.isDeclared && builder.isCached host.identity <;> rfl

/-- One step of the walk keeps what a walk keeps. It is a step of the exploration too, unless
the type has been declared while it waited. -/
theorem explored_step (pointed : setting.override.PointsTo targets)
    (coherent : Coherent setting targets roots) {builder after : Builder Loader}
    (walking : Walking setting targets roots builder) {seen : List Identity}
    (seenBy : SeenBy setting targets roots seen (builder.keys ++ builder.waiting))
    {host : Host Loader} {rest : List (Host Loader)} (queue : builder.queue = host :: rest)
    (done : outcome (mapHost setting host) (builder.dequeue host rest) = (.ok (), after)) :
    Walking setting targets roots after ∧ ∃ seen' visited,
      SeenBy setting targets roots seen' (after.keys ++ after.waiting) ∧
      ownKeys after.cache = ownKeys builder.cache ++
        (visited.filter (owns targets)).map Host.identity ∧
      ∀ order, BreadthFirst Host.identity (successors targets setting.source) (remaining after)
          seen' order →
        BreadthFirst Host.identity (successors targets setting.source) (remaining builder) seen
          (visited ++ order) := by
  obtain ⟨walking', gone⟩ := walking.dequeue queue
  have reached : Reachable setting targets roots host :=
    walking.reached host (by rw [queue]; exact List.mem_cons_self)
  have waiting : builder.waiting = host.identity :: (builder.dequeue host rest).waiting := by
    rw [Builder.waiting, queue]
    rfl
  by_cases known : host.identity ∈ builder.keys
  · have passed : outcome (mapHost setting host) (builder.dequeue host rest) =
        (.ok (), builder.dequeue host rest) := outcome_mapHost_of_cached known
    obtain rfl : builder.dequeue host rest = after := (Prod.mk.inj (passed.symm.trans done)).2
    have seenBy' : SeenBy setting targets roots seen
        ((builder.dequeue host rest).keys ++ (builder.dequeue host rest).waiting) := by
      refine seenBy.congr fun identity => ?_
      rw [waiting, List.mem_append, List.mem_append, List.mem_cons, ← or_assoc]
      exact or_congr_left (or_iff_left_of_imp fun same => same ▸ known)
    have cached : builder.isCached host.identity = true := Builder.isCached_iff.mpr known
    rw [remaining_cons queue, cached, Bool.and_true]
    cases declared : host.kind.isDeclared with
    | true =>
      -- The exploration has met the type before.
      exact ⟨walking', seen, [], seenBy', (List.append_nil _).symm, fun order later => later⟩
    | false =>
      -- The alias of a date was registered before the date itself was mapped.
      obtain ⟨entry, _, same, accounted⟩ := walking.exists_justified known
      have next := coherent.successors_of_justified accounted reached declared same
      have foreign : owns targets host = false := owns_of_plain declared
      refine ⟨walking', seen, [host], seenBy', ?_, fun order later => .visit next ?_⟩
      · rw [List.filter_cons_of_neg (by rw [foreign]; decide)]
        exact (List.append_nil _).symm
      · rw [firsts, List.append_nil, List.map_nil, List.append_nil]
        exact later
  · obtain ⟨found, explored⟩ :=
      explored_mapHost pointed coherent reached walking'.queued known done
    have seenBy' : SeenBy setting targets roots seen
        ((builder.dequeue host rest).keys ++ (builder.dequeue host rest).waiting ++
          [host.identity]) := by
      refine seenBy.congr fun identity => ?_
      rw [waiting, List.mem_append, List.mem_append, List.mem_append, List.mem_cons,
        List.mem_singleton, or_assoc, or_comm (a := identity = host.identity)]
      rfl
    have cached : builder.isCached host.identity = false := by
      rw [Bool.eq_false_iff, Ne, Builder.isCached_iff]
      exact known
    rw [remaining_cons queue, cached, Bool.and_false]
    refine ⟨explored.walking reached walking', _, [host],
      explored.seenBy coherent reached seenBy', ?_, fun order later => .visit explored.next ?_⟩
    · obtain ⟨extra, cache, _, new⟩ := explored.cache
      rw [cache, ownKeys_append, new, List.filter_cons]
      split <;> rfl
    · rwa [explored.remaining_eq coherent reached walking' gone seenBy'] at later

/-- Working through the queue explores breadth first what remains of it, and declares the
objects and enumerations in the order in which they are explored. -/
theorem explored_drain (pointed : setting.override.PointsTo targets)
    (coherent : Coherent setting targets roots) {limit : Nat} {builder final : Builder Loader}
    (walking : Walking setting targets roots builder) {seen : List Identity}
    (seenBy : SeenBy setting targets roots seen (builder.keys ++ builder.waiting))
    (done : outcome (drain setting limit) builder = (.ok (), final)) :
    ∃ order, BreadthFirst Host.identity (successors targets setting.source) (remaining builder)
        seen order ∧
      ownKeys final.cache = ownKeys builder.cache ++
        (order.filter (owns targets)).map Host.identity ∧
      ∀ entry ∈ final.cache, Justified setting targets roots entry := by
  induction limit generalizing builder seen with
  | zero =>
    rw [drain, outcome_bind, outcome_get] at done
    simp only at done
    split_ifs at done with idle
    · cases done
    · cases done
      have empty : final.queue = [] := by simpa using idle
      rw [remaining, empty]
      exact ⟨[], .done seen, (List.append_nil _).symm, walking.justified⟩
  | succ limit ih =>
    rw [drain, outcome_bind, outcome_get] at done
    simp only at done
    split at done
    next empty =>
      cases done
      rw [remaining, empty]
      exact ⟨[], .done seen, (List.append_nil _).symm, walking.justified⟩
    next host rest queue =>
      rw [outcome_bind, outcome_modify] at done
      simp only at done
      obtain ⟨_, after, mapping, further⟩ := outcome_bind_eq_ok.mp done
      obtain ⟨walking', seen', visited, seenBy', own, step⟩ :=
        explored_step pointed coherent walking seenBy queue mapping
      obtain ⟨order, later, own', justified⟩ := ih walking' seenBy' further
      refine ⟨visited ++ order, step order later, ?_, justified⟩
      rw [own', own, List.filter_append, List.map_append, List.append_assoc]

/-! ## From the roots -/

/-- The roots are queued in their order, each identity once. -/
theorem queued_enqueueRoots {handles : List Handle} {builder after : Builder Loader}
    (queued : builder.Queued)
    (done : outcome (enqueueRoots setting handles) builder = (.ok (), after)) :
    ∃ hosts, handles.mapM setting.describe = .ok hosts ∧ after.Queued ∧
      after.cache = builder.cache ∧
      after.queue =
        builder.queue ++ firsts Host.identity (builder.keys ++ builder.waiting) hosts := by
  induction handles generalizing builder with
  | nil =>
    cases done
    exact ⟨[], rfl, queued, rfl, (List.append_nil _).symm⟩
  | cons handle rest ih =>
    rw [enqueueRoots] at done
    obtain ⟨host, middle, described, done⟩ := outcome_bind_eq_ok.mp done
    rw [outcome_bind, outcome_modify] at done
    simp only at done
    cases found : setting.describe handle with
    | error fault => rw [found] at described; cases described
    | ok host' =>
      rw [found] at described
      cases described
      obtain ⟨queued', cache, _⟩ := queued.require host
      obtain ⟨hosts, others, queued'', cache', queue⟩ := ih queued' done
      refine ⟨host :: hosts, ?_, queued'', cache'.trans cache,
        queue.trans (queued.queue_require host hosts)⟩
      rw [List.mapM_cons, found, others]
      rfl

/-- A walk that ends well has explored breadth first what its roots are described as. -/
theorem explored_walk (pointed : setting.override.PointsTo targets)
    (coherent : Coherent setting targets roots) {limit : Nat} {builder : Builder Loader}
    (walked : outcome (walk setting limit roots) {} = (.ok (), builder)) :
    ∃ hosts order, roots.mapM setting.describe = .ok hosts ∧
      BreadthFirst Host.identity (successors targets setting.source)
        (firsts Host.identity [] hosts) ((firsts Host.identity [] hosts).map Host.identity) order ∧
      ownKeys builder.cache = (order.filter (owns targets)).map Host.identity ∧
      ∀ entry ∈ builder.cache, Justified setting targets roots entry := by
  rw [walk] at walked
  obtain ⟨_, start, enqueued, drained⟩ := outcome_bind_eq_ok.mp walked
  have empty : ({} : Builder Loader).Queued := ⟨rfl, List.nodup_nil⟩
  obtain ⟨hosts, described, queued, cache, queue⟩ := queued_enqueueRoots empty enqueued
  have keys : start.keys = [] := congrArg (List.map Prod.fst) cache
  have queue' : start.queue = firsts Host.identity [] hosts := queue
  have everything : remaining start = firsts Host.identity [] hosts := by
    rw [remaining, List.filter_eq_self.mpr, queue']
    intro host _
    have new : start.isCached host.identity = false := by
      rw [Builder.isCached, cache]
      rfl
    rw [new, Bool.and_false]
    rfl
  have walking : Walking setting targets roots start := by
    refine ⟨queued, fun host member => ?_, by simp [cache]⟩
    obtain ⟨listed, _⟩ := mem_of_mem_firsts (queue' ▸ member)
    obtain ⟨handle, inside, described'⟩ := (Result.mem_mapM_iff described).mp listed
    exact .root inside described'
  have seenBy : SeenBy setting targets roots ((firsts Host.identity [] hosts).map Host.identity)
      (start.keys ++ start.waiting) := by
    intro host _ _
    rw [keys, List.nil_append, Builder.waiting, queue']
  obtain ⟨order, explored, own, justified⟩ :=
    explored_drain pointed coherent walking seenBy drained
  rw [everything] at explored
  rw [cache] at own
  exact ⟨hosts, order, described, explored, own, justified⟩

/-- The exploration comes across reachable types only. -/
theorem reachable_of_explored {hosts order : List (Host Loader)}
    (described : roots.mapM setting.describe = .ok hosts) {seen : List Identity}
    (explored : BreadthFirst Host.identity (successors targets setting.source)
      (firsts Host.identity [] hosts) seen order) :
    ∀ item ∈ order, Reachable setting targets roots item := by
  refine explored.sound (fun item found reached next successor member =>
    (reached.of_mem_successors next successor member).1) fun item member => ?_
  obtain ⟨handle, listed, same⟩ :=
    (Result.mem_mapM_iff described).mp (mem_of_mem_firsts member).1
  exact .root listed same

/-- The exploration comes across everything that a reachable type asks for. -/
theorem occurrences_explored (coherent : Coherent setting targets roots)
    {hosts order : List (Host Loader)} (described : roots.mapM setting.describe = .ok hosts)
    (explored : BreadthFirst Host.identity (successors targets setting.source)
      (firsts Host.identity [] hosts) ((firsts Host.identity [] hosts).map Host.identity) order)
    {host : Host Loader} (reached : Reachable setting targets roots host) :
    ∀ occurrence ∈ occurrences targets host, occurrence.identity ∈ order.map Host.identity := by
  obtain ⟨queued, closed⟩ := explored.closed
  have rooted := reachable_of_explored described explored
  have onwards : ∀ item ∈ order, ∀ found, successors targets setting.source item = .ok found →
      ∀ successor ∈ found, successor.identity ∈ order.map Host.identity := by
    intro item member found next successor inside
    obtain ⟨found', next', known⟩ := closed item member
    obtain rfl : found' = found := Except.ok.inj (next'.symm.trans next)
    refine (known successor inside).elim (fun first => ?_) id
    obtain ⟨start, member', same⟩ := List.mem_map.mp first
    exact List.mem_map.mpr ⟨start, queued start member', same⟩
  induction reached with
  | @root handle host listed same =>
    have member : host ∈ hosts := (Result.mem_mapM_iff described).mpr ⟨handle, listed, same⟩
    have first : host.identity ∈ ([] : List Identity) ∨
        host.identity ∈ (firsts Host.identity [] hosts).map Host.identity := key_mem_firsts member
    obtain ⟨start, inside, equal⟩ := List.mem_map.mp (first.resolve_left List.not_mem_nil)
    have explored' := queued start inside
    have agree := coherent.agree start host (rooted start explored') (.root listed same) equal
    intro occurrence asked
    rw [occurrences_eq] at asked
    split_ifs at asked with claimed declared
    · cases asked
    · rw [List.mem_singleton.mp asked]
      exact List.mem_map.mpr ⟨start, explored', equal⟩
    · refine onwards start explored' _ ?_ occurrence asked
      rw [agree.successors]
      exact successors_of_plain (by simpa using claimed) (by simpa using declared)
  | @part host part reached free inside ih =>
    intro occurrence asked
    refine ih occurrence ?_
    have plain : host.kind.isDeclared = false := by
      cases kind : host.kind with
      | object => rw [Host.parts, kind] at inside; cases inside
      | enumeration => rw [Host.parts, kind] at inside; cases inside
      | _ => rfl
    rw [occurrences_of_plain free plain]
    exact List.mem_flatMap.mpr ⟨part, inside, asked⟩
  | @member host members member reached free kind loaded listed ih =>
    intro occurrence asked
    have itself : host ∈ occurrences targets host := by
      rw [occurrences_of_declared free (by rw [kind]; rfl)]
      exact List.mem_singleton_self host
    obtain ⟨start, explored', equal⟩ := List.mem_map.mp (ih host itself)
    have agree := coherent.agree start host (rooted start explored') reached equal
    refine onwards start explored' (members.flatMap fun member => occurrences targets member.type)
      ?_ occurrence (List.mem_flatMap.mpr ⟨member, listed, asked⟩)
    rw [agree.successors]
    exact successors_of_object free kind loaded

/-- A walk that ends well is a breadth-first exploration. The objects and enumerations that
it declares are those that stand for themselves, in the order of their discovery. Every
declaration is accounted for by a reachable type, and every reachable object and
enumeration that stands for itself is declared. -/
theorem breadthFirst_walk (pointed : setting.override.PointsTo targets)
    (coherent : Coherent setting targets roots) {limit : Nat} {builder : Builder Loader}
    (walked : outcome (walk setting limit roots) {} = (.ok (), builder)) :
    ∃ hosts order, roots.mapM setting.describe = .ok hosts ∧
      BreadthFirst Host.identity (successors targets setting.source)
        (firsts Host.identity [] hosts) ((firsts Host.identity [] hosts).map Host.identity) order ∧
      (order.map Host.identity).Nodup ∧
      ownKeys builder.cache = (order.filter (owns targets)).map Host.identity ∧
      (∀ entry ∈ builder.cache, Justified setting targets roots entry) ∧
      ∀ host, Reachable setting targets roots host → owns targets host = true →
        host.identity ∈ ownKeys builder.cache := by
  obtain ⟨hosts, order, described, explored, own, justified⟩ :=
    explored_walk pointed coherent walked
  have once := explored.nodup (nodup_firsts [] hosts) fun item member =>
    List.mem_map.mpr ⟨item, member, rfl⟩
  refine ⟨hosts, order, described, explored, once.1, own, justified, fun host reached owned => ?_⟩
  have asked : host ∈ occurrences targets host := by
    obtain ⟨free, declared⟩ := owns_iff.mp owned
    rw [occurrences_of_declared free declared]
    exact List.mem_singleton_self host
  obtain ⟨item, member, same⟩ :=
    List.mem_map.mp (occurrences_explored coherent described explored reached host asked)
  have agree := coherent.agree item host (reachable_of_explored described explored item member)
    reached same
  rw [own]
  exact List.mem_map.mpr ⟨item, List.mem_filter.mpr ⟨member, agree.owns.trans owned⟩, same⟩

/-- An author with a list of books, each of which may name its author. -/
def author : Host Nat :=
  { kind := .object, fullName := "m.Author", name := "Author", loader := some 0 }

/-- A book. -/
def book : Host Nat := { kind := .object, fullName := "m.Book", name := "Book", loader := some 1 }

/-- A list of books. -/
def books : Host Nat :=
  { kind := .sequence, fullName := "builtins.list", name := "list", arguments := [book],
    element := some book }

/-- The two types refer to each other. -/
def library : Setting Nat Nat where
  options := {}
  override := .silent
  layout := Layout.perType none
  describe _ := .ok author
  source loader :=
    if loader = 0 then .ok [⟨"books", books⟩] else .ok [⟨"author", author.asNullable true⟩]

theorem reachable_library {host : Host Nat} (reached : Reachable library [] [0] host) :
    host ∈ [author, author.asNullable true, books, book] := by
  induction reached with
  | root listed described =>
    cases described
    exact List.mem_cons_self
  | part reached free inside ih =>
    simp only [List.mem_cons, List.not_mem_nil, or_false] at ih ⊢
    rcases ih with rfl | rfl | rfl | rfl
    · cases inside
    · cases inside
    · exact .inr (.inr (.inr (List.mem_singleton.mp inside)))
    · cases inside
  | member reached free kind loaded listed ih =>
    simp only [List.mem_cons, List.not_mem_nil, or_false] at ih
    rcases ih with rfl | rfl | rfl | rfl
    · cases loaded
      rw [List.mem_singleton.mp listed]
      simp
    · cases loaded
      rw [List.mem_singleton.mp listed]
      simp
    · cases kind
    · cases loaded
      rw [List.mem_singleton.mp listed]
      simp

theorem coherent_library : Coherent library [] [0] where
  agree a b reached reached' same := by
    have inside := reachable_library reached
    have inside' := reachable_library reached'
    simp only [List.mem_cons, List.not_mem_nil, or_false] at inside inside'
    rcases inside with rfl | rfl | rfl | rfl <;> rcases inside' with rfl | rfl | rfl | rfl <;>
      first
      | exact ⟨rfl, rfl⟩
      | exact absurd same (by decide +kernel)
  dates host reached date := by
    have inside := reachable_library reached
    simp only [List.mem_cons, List.not_mem_nil, or_false] at inside
    rcases inside with rfl | rfl | rfl | rfl <;> cases date
  unreserved host reached := by
    have inside := reachable_library reached
    simp only [List.mem_cons, List.not_mem_nil, or_false] at inside
    rcases inside with rfl | rfl | rfl | rfl <;> decide +kernel

set_option maxRecDepth 100000 in
/-- The walk of the two types declares them in the order of their discovery. -/
theorem breadthFirst_walk_library :
    ∃ builder hosts order, outcome (walk library 10 [0]) {} = (.ok (), builder) ∧
      [0].mapM library.describe = .ok hosts ∧
      BreadthFirst Host.identity (successors [] library.source)
        (firsts Host.identity [] hosts) ((firsts Host.identity [] hosts).map Host.identity) order ∧
      ownKeys builder.cache = (order.filter (owns [])).map Host.identity := by
  have pointed : library.override.PointsTo [] := .inl ⟨rfl, rfl⟩
  have ended : (outcome (walk library 10 [0]) {}).1 = .ok () := by cbv
  rcases walked : outcome (walk library 10 [0]) {} with ⟨result, builder⟩
  obtain rfl : result = .ok () := by rwa [walked] at ended
  obtain ⟨hosts, order, described, explored, _, own, _⟩ :=
    breadthFirst_walk pointed coherent_library walked
  exact ⟨builder, hosts, order, rfl, described, explored, own⟩

end TypeContracts.Graph
