import Mathlib.Data.List.Nodup
import Mathlib.Tactic.SplitIfs
import TypeContracts.Graph.Builder
import TypeContracts.Proofs.Graph.BreadthFirst
import TypeContracts.Proofs.Mapping.Occurrences

/-!
# The state of a build

Each service changes a builder in one way: a type that is required goes behind the queue
(`Builder.require_spec`), a declaration that is registered goes behind the cache, perhaps
under another name (`Builder.register_spec`), and a report changes the journal alone.

So the cache stays a map from identities to their declarations (`Builder.Consistent`), the
types that wait stay those of the queue (`Builder.Queued`), and requests put the first
occurrences of new types behind the queue (`Builder.effect_of_requests`).
-/

set_option autoImplicit false

namespace TypeContracts

@[simp] theorem Declaration.rename_name (declaration : Declaration) :
    declaration.rename declaration.name = declaration := by
  cases declaration <;> rfl

namespace Builder

variable {Loader : Type}

/-! ## One service at a time -/

/-- The identities that are declared. -/
def keys (builder : Builder Loader) : List Identity := builder.cache.map Prod.fst

/-- The identities of the queue. -/
def waiting (builder : Builder Loader) : List Identity := builder.queue.map Host.identity

theorem isCached_iff {builder : Builder Loader} {identity : Identity} :
    builder.isCached identity = true ↔ identity ∈ builder.keys := by
  simp [isCached, keys]

/-- A declaration goes behind the cache, perhaps renamed, unless its identity is declared. -/
theorem register_spec (declaration : Declaration) (builder : Builder Loader) :
    (declaration.identity ∈ builder.keys ∧ builder.register declaration = builder) ∨
      (declaration.identity ∉ builder.keys ∧ ∃ name taken journal,
        builder.register declaration =
          { builder with
            cache := builder.cache ++ [(declaration.identity, declaration.rename name)]
            taken := taken
            journal := journal }) := by
  unfold register
  by_cases cached : builder.isCached declaration.identity = true
  · exact .inl ⟨isCached_iff.mp cached, if_pos cached⟩
  · refine .inr ⟨fun known => cached (isCached_iff.mpr known),
      (builder.nameFor declaration).1, (builder.nameFor declaration).2,
      (builder.reportRenaming declaration (builder.nameFor declaration).1).journal, ?_⟩
    rw [if_neg cached]
    simp only [reportRenaming]
    split_ifs with same
    · rw [same, Declaration.rename_name]
    · rfl

/-- Nothing is declared less when a declaration is registered. -/
theorem keys_subset_register (declaration : Declaration) (builder : Builder Loader) :
    builder.keys ⊆ (builder.register declaration).keys := by
  rcases register_spec declaration builder with ⟨_, same⟩ | ⟨_, name, taken, journal, added⟩
  · rw [same]
    exact fun _ => id
  · rw [added, keys, keys, List.map_append]
    exact List.subset_append_left _ _

/-- What is registered is declared. -/
theorem mem_keys_register (declaration : Declaration) (builder : Builder Loader) :
    declaration.identity ∈ (builder.register declaration).keys := by
  rcases register_spec declaration builder with ⟨known, same⟩ | ⟨_, name, taken, journal, added⟩
  · rwa [same]
  · rw [added, keys, List.map_append]
    exact List.mem_append_right _ (List.mem_singleton_self _)

theorem queue_register (declaration : Declaration) (builder : Builder Loader) :
    (builder.register declaration).queue = builder.queue := by
  rcases register_spec declaration builder with ⟨_, same⟩ | ⟨_, name, taken, journal, added⟩
  · rw [same]
  · rw [added]

/-- A type goes behind the queue, unless it is declared or waits already. -/
theorem require_spec (host : Host Loader) (builder : Builder Loader) :
    ((host.identity ∈ builder.keys ∨ host.identity ∈ builder.pending.map Prod.fst) ∧
        builder.require host = builder) ∨
      (host.identity ∉ builder.keys ∧ host.identity ∉ builder.pending.map Prod.fst ∧
        builder.require host =
          { builder with
            pending := builder.pending ++ [(host.identity, host)]
            queue := builder.queue ++ [host] }) := by
  have waits : builder.isPending host.identity = true ↔
      host.identity ∈ builder.pending.map Prod.fst := by
    simp [isPending]
  unfold require
  simp only
  split_ifs with known
  · rw [Bool.or_eq_true, isCached_iff, waits] at known
    exact .inl ⟨known, rfl⟩
  · rw [Bool.or_eq_true, isCached_iff, waits, not_or] at known
    exact .inr ⟨known.1, known.2, rfl⟩

/-! ## The cache as a map -/

/-- Every identity is declared once, under its own key. -/
structure Consistent (builder : Builder Loader) : Prop where
  nodup : builder.keys.Nodup
  keyed : ∀ entry ∈ builder.cache, entry.2.identity = entry.1

theorem consistent_empty : ({} : Builder Loader).Consistent := ⟨List.nodup_nil, by simp⟩

theorem consistent_register (declaration : Declaration) (builder : Builder Loader)
    (consistent : builder.Consistent) : (builder.register declaration).Consistent := by
  rcases register_spec declaration builder with ⟨_, same⟩ | ⟨new, name, taken, journal, added⟩
  · rwa [same]
  · rw [added]
    constructor
    · rw [keys, List.map_append, List.map_singleton, ← List.concat_eq_append]
      exact .concat new consistent.nodup
    · rw [List.forall_mem_append, List.forall_mem_singleton]
      exact ⟨consistent.keyed, declaration.identity_rename name⟩

theorem consistent_require (host : Host Loader) (builder : Builder Loader)
    (consistent : builder.Consistent) : (builder.require host).Consistent := by
  rcases require_spec host builder with ⟨_, same⟩ | ⟨_, _, added⟩
  · rwa [same]
  · rw [added]
    exact ⟨consistent.nodup, consistent.keyed⟩

theorem keep_consistent : (services : Services Loader (Builder Loader)).Keep Consistent where
  require := consistent_require
  register := consistent_register
  report _ _ consistent := ⟨consistent.nodup, consistent.keyed⟩

/-! ## The queue -/

/-- The types that wait are those of the queue, each identity once. -/
structure Queued (builder : Builder Loader) : Prop where
  pending : builder.pending.map Prod.fst = builder.waiting
  nodup : builder.waiting.Nodup

/-- A type that is required is put behind the queue when its identity is new. -/
theorem Queued.require {builder : Builder Loader} (queued : builder.Queued) (host : Host Loader) :
    (builder.require host).Queued ∧ (builder.require host).cache = builder.cache ∧
      (builder.require host).queue =
        builder.queue ++ Graph.firsts Host.identity (builder.keys ++ builder.waiting) [host] := by
  rcases require_spec host builder with ⟨known, same⟩ | ⟨new, idle, added⟩
  · rw [same]
    rw [queued.pending] at known
    refine ⟨queued, rfl, ?_⟩
    rw [Graph.firsts, if_pos (List.mem_append.mpr known), Graph.firsts, List.append_nil]
  · rw [queued.pending] at idle
    have fresh : host.identity ∉ builder.keys ++ builder.waiting := by
      rw [List.mem_append, not_or]
      exact ⟨new, idle⟩
    rw [added]
    refine ⟨⟨?_, ?_⟩, rfl, ?_⟩
    · rw [waiting, List.map_append, List.map_append, queued.pending]
      rfl
    · rw [waiting, List.map_append, List.map_singleton, ← List.concat_eq_append]
      exact .concat idle queued.nodup
    · rw [Graph.firsts, if_neg fresh, Graph.firsts]

/-- Types that are required one after another are put behind the queue in their order. -/
theorem Queued.queue_require {builder : Builder Loader} (queued : builder.Queued)
    (host : Host Loader) (hosts : List (Host Loader)) :
    (builder.require host).queue ++
        Graph.firsts Host.identity ((builder.require host).keys ++ (builder.require host).waiting)
          hosts =
      builder.queue ++
        Graph.firsts Host.identity (builder.keys ++ builder.waiting) (host :: hosts) := by
  obtain ⟨_, cache, queue⟩ := queued.require host
  have keys' : (builder.require host).keys = builder.keys := congrArg (List.map Prod.fst) cache
  have waiting' : (builder.require host).waiting = builder.waiting ++
      (Graph.firsts Host.identity (builder.keys ++ builder.waiting) [host]).map Host.identity := by
    rw [waiting, queue, List.map_append, waiting]
  rw [← List.singleton_append, Graph.firsts_append, keys', waiting', queue, List.append_assoc,
    List.append_assoc]

theorem Queued.register {builder : Builder Loader} (queued : builder.Queued)
    (declaration : Declaration) : (builder.register declaration).Queued := by
  rcases register_spec declaration builder with ⟨_, same⟩ | ⟨_, name, taken, journal, added⟩
  · rwa [same]
  · rw [added]
    exact ⟨queued.pending, queued.nodup⟩

/-- A type that leaves the queue leaves the types behind it, and waits no more. -/
theorem Queued.dequeue {builder : Builder Loader} (queued : builder.Queued) {host : Host Loader}
    {rest : List (Host Loader)} (queue : builder.queue = host :: rest) :
    (builder.dequeue host rest).Queued ∧ host.identity ∉ rest.map Host.identity := by
  have waiting : builder.waiting = host.identity :: rest.map Host.identity := by
    rw [Builder.waiting, queue, List.map_cons]
  have apart := queued.nodup
  rw [waiting, List.nodup_cons] at apart
  refine ⟨⟨?_, apart.2⟩, apart.1⟩
  have pending := queued.pending
  rw [waiting] at pending
  have left : ∀ identity ∈ rest.map Host.identity, (identity != host.identity) = true := by
    intro identity member
    rw [bne_iff_ne]
    rintro rfl
    exact apart.1 member
  calc ((builder.pending.filter fun entry => entry.1 != host.identity).map Prod.fst)
      = (builder.pending.map Prod.fst).filter fun identity => identity != host.identity := by
        rw [List.filter_map]
        rfl
    _ = rest.map Host.identity := by
        rw [pending, List.filter_cons_of_neg (by simp), List.filter_eq_self.mpr left]

open TypeContracts.Graph Mapping

variable {options : Options} {targets : List (String × HandWritten)}
  {property : Host Loader → Prop}

/-- Requests put the first occurrences of new types behind the queue and aliases behind the
cache, as long as no alias has the identity of a type that is asked for. -/
theorem effect_of_requests {hosts : List (Host Loader)} {s t : Builder Loader}
    (asks : Requests services options targets property hosts s t) (queued : s.Queued)
    (apart : ∀ host ∈ hosts, ∀ declaration, Synthesized options targets property declaration →
      declaration.identity ≠ host.identity) :
    t.Queued ∧ t.queue = s.queue ++ firsts Host.identity (s.keys ++ s.waiting) hosts ∧
      ∃ extra, t.cache = s.cache ++ extra ∧
        ∀ entry ∈ extra, ∃ declaration name, Synthesized options targets property declaration ∧
          entry = (declaration.identity, declaration.rename name) := by
  induction asks with
  | done s => exact ⟨queued, by rw [firsts, List.append_nil], [], by simp, by simp⟩
  | @require host hosts s t rest ih =>
    rw [List.forall_mem_cons] at apart
    obtain ⟨queued', cached, _⟩ := queued.require host
    obtain ⟨queued'', queue, extra, cached', synthesized⟩ := ih queued' apart.2
    exact ⟨queued'', queue.trans (queued.queue_require host hosts), extra,
      cached'.trans (congrArg (· ++ extra) cached), synthesized⟩
  | @register declaration hosts s t synthetic rest ih =>
    obtain ⟨queued', queue, extra, cached, synthesized⟩ := ih (queued.register declaration) apart
    have others : ∀ host ∈ hosts, declaration.identity ≠ host.identity :=
      fun host member => apart host member declaration synthetic
    rcases register_spec declaration s with ⟨_, same⟩ | ⟨_, name, taken, journal, added⟩
    · rw [show services.register declaration s = s from same] at queue cached
      exact ⟨queued', queue, extra, cached, synthesized⟩
    · rw [show services.register declaration s = _ from added] at queue cached
      refine ⟨queued', queue.trans (congrArg (s.queue ++ ·) (firsts_congr fun host member => ?_)),
        (declaration.identity, declaration.rename name) :: extra, ?_, ?_⟩
      · have other := others host member
        simp [keys, waiting, Ne.symm other]
      · rw [cached, List.append_assoc, List.singleton_append]
      · rw [List.forall_mem_cons]
        exact ⟨⟨declaration, name, synthetic, rfl⟩, synthesized⟩

end Builder

end TypeContracts
