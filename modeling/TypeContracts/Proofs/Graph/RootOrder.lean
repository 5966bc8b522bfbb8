import Mathlib.Data.List.Perm.Subperm
import TypeContracts.Proofs.Graph.Progress
import TypeContracts.Proofs.Graph.Walk

/-!
# Walks from the same roots in another order

A walk that has ended well has come across everything that its roots ask for
(`Graph.Progress.mem_left`). So no other walk from the same roots comes across more, or across
anything more often, and it ends within the same number of steps (`Graph.Progress.length_le`).
Both caches hold what is due for what the roots ask for (`Graph.Progress.cache_subset`).

So walks from two lists of the same roots end well together, and their caches hold the same
declarations (`Graph.exists_walk`).
-/

set_option autoImplicit false

namespace TypeContracts.Graph

open MappingM Mapping

variable {Handle Loader : Type} {setting : Setting Handle Loader}
  {targets : List (String × HandWritten)} {roots : List Handle}

/-! ## From the roots -/

/-- Roots are queued when all of them are described. -/
theorem exists_enqueueRoots_iff {handles : List Handle} {builder : Builder Loader} :
    (∃ start, outcome (enqueueRoots setting handles) builder = (.ok (), start)) ↔
      ∀ handle ∈ handles, ∃ host, setting.describe handle = .ok host := by
  induction handles generalizing builder with
  | nil => simp [enqueueRoots]
  | cons handle rest ih =>
    rw [List.forall_mem_cons, enqueueRoots, outcome_bind]
    cases described : setting.describe handle with
    | error fault => simp [settled]
    | ok host => simpa [settled, outcome_bind] using ih

/-- Names are taken only when declarations are registered. -/
theorem keep_untaken :
    (Builder.services : Services Loader (Builder Loader)).Keep
      fun builder => builder.cache = [] → builder.taken = [] where
  require host builder untaken := by
    rcases Builder.require_spec host builder with ⟨_, same⟩ | ⟨_, _, added⟩
    · rwa [show Builder.services.require host builder = builder from same]
    · rwa [show Builder.services.require host builder = _ from added]
  register declaration builder untaken := by
    rcases Builder.register_spec declaration builder with ⟨_, same⟩ | ⟨_, _, _, _, added⟩
    · rwa [show Builder.services.register declaration builder = builder from same]
    · rw [show Builder.services.register declaration builder = _ from added]
      simp
  report _ _ untaken := untaken

/-- Once the roots are queued, in whatever order, nothing has left the queue. -/
theorem progress_enqueueRoots {handles : List Handle}
    (same : ∀ handle, handle ∈ handles ↔ handle ∈ roots) {start : Builder Loader}
    (enqueued : outcome (enqueueRoots setting handles) {} = (.ok (), start)) :
    Progress setting targets roots [] start := by
  have empty : ({} : Builder Loader).Queued := ⟨rfl, List.nodup_nil⟩
  obtain ⟨hosts, described, queued, cache, queue⟩ := queued_enqueueRoots empty enqueued
  have queue' : start.queue = firsts Host.identity [] hosts := queue
  have taken : start.taken = [] := by
    have kept : Keeps (fun builder => builder.cache = [] → builder.taken = [])
        (enqueueRoots setting handles) := keeps_enqueueRoots keep_untaken handles
    have untaken := kept {} fun _ => rfl
    rw [enqueued] at untaken
    exact untaken cache
  refine ⟨queued, ?_, ?_, by simp, ?_, ?_, ?_⟩
  · intro host member
    rw [List.nil_append, queue'] at member
    obtain ⟨handle, listed, found⟩ :=
      (Result.mem_mapM_iff described).mp (mem_of_mem_firsts member).1
    exact .root ((same handle).mp listed) found
  · intro handle listed
    obtain ⟨host, found⟩ :=
      exists_enqueueRoots_iff.mp ⟨start, enqueued⟩ handle ((same handle).mpr listed)
    refine ⟨host, found, ?_⟩
    have member := (Result.mem_mapM_iff described).mpr ⟨handle, (same handle).mpr listed, found⟩
    have somewhere : host.identity ∈ [] ∨ _ := key_mem_firsts member
    rw [List.nil_append, queue']
    exact somewhere.resolve_left List.not_mem_nil
  · rw [cache]
    simp
  · intro entry member
    rw [taken] at member
    cases member
  · intro identity
    have once : ((firsts Host.identity [] hosts).map Host.identity).Nodup := nodup_firsts _ _
    rw [List.nil_append, queue']
    have most := List.nodup_iff_count_le_one.mp once identity
    refine ⟨by omega, fun twice => by omega, ?_⟩
    rintro ⟨member, _⟩
    cases member

/-! ## What a walk has come across -/

namespace Progress

variable {done done' : List (Host Loader)} {builder builder' final : Builder Loader}

/-- Whatever the roots ask for has left the queue when the queue is empty. -/
theorem mem_left (coherent : Coherent setting targets roots)
    (progress : Progress setting targets roots done builder) (idle : builder.queue = [])
    {host : Host Loader} (asked : Asked setting targets roots host) :
    ∃ left ∈ done, Agree setting.source left host := by
  have left : host.identity ∈ done.map Host.identity := by
    induction asked with
    | root listed described =>
      obtain ⟨root, described', member⟩ := progress.rooted _ listed
      obtain rfl := Except.ok.inj (described'.symm.trans described)
      rwa [idle, List.append_nil] at member
    | @next host successor found asked next listed ih =>
      obtain ⟨earlier, inside, same⟩ := List.mem_map.mp ih
      have agree := coherent.agree earlier host
        (progress.reachable (List.mem_append_left _ inside)) asked.reachable same
      have member := (progress.served earlier inside).closed found
        (agree.successors.trans next) _ listed
      rwa [idle, List.append_nil] at member
  obtain ⟨earlier, inside, same⟩ := List.mem_map.mp left
  exact ⟨earlier, inside, coherent.agree earlier host
    (progress.reachable (List.mem_append_left _ inside)) asked.reachable same⟩

/-- No other walk comes across anything more often than a walk that has ended, so that it takes
no more steps. -/
theorem length_le (coherent : Coherent setting targets roots)
    (progress : Progress setting targets roots done builder) (idle : builder.queue = [])
    (other : Progress setting targets roots done' builder') :
    (done' ++ builder'.queue).length ≤ done.length := by
  have counts : ∀ identity ∈ (done' ++ builder'.queue).map Host.identity,
      ((done' ++ builder'.queue).map Host.identity).count identity ≤
        (done.map Host.identity).count identity := by
    intro identity member
    obtain ⟨host, inside, rfl⟩ := List.mem_map.mp member
    obtain ⟨earlier, left, agree⟩ := progress.mem_left coherent idle (other.asked host inside)
    have among : host.identity ∈ done.map Host.identity :=
      List.mem_map.mpr ⟨earlier, left, agree.identity⟩
    have once := List.count_pos_iff.mpr among
    have counted := progress.counted host.identity
    rw [idle, List.append_nil] at counted
    obtain ⟨most, twice⟩ := other.counted host.identity
    by_cases again : 2 ≤ ((done' ++ builder'.queue).map Host.identity).count host.identity
    · have again' := counted.2.mpr ⟨among, (twice.mp again).2⟩
      omega
    · omega
  have bound := (List.subperm_ext_iff.mpr counts).length_le
  rwa [List.length_map, List.length_map] at bound

/-- What one walk has declared, the other has declared as well. -/
theorem cache_subset (pointed : setting.override.PointsTo targets)
    (coherent : Coherent setting targets roots)
    (progress : Progress setting targets roots done builder) (idle : builder.queue = [])
    (other : Progress setting targets roots done' builder') :
    builder'.cache ⊆ builder.cache := by
  intro entry member
  obtain ⟨host, left', declaration, isDue, rfl⟩ := other.made entry member
  obtain ⟨earlier, left, agree⟩ :=
    progress.mem_left coherent idle (other.asked host (List.mem_append_left _ left'))
  rw [← agree.due pointed] at isDue
  obtain ⟨entry, cached, same⟩ :=
    List.mem_map.mp ((progress.served earlier left).met declaration isDue)
  obtain ⟨origin, left'', declaration', isDue', rfl⟩ := progress.made entry cached
  -- The identity is declared there, and no other declaration is due for it.
  have equal : declaration' = declaration := by
    have reachable : ∀ host ∈ done, Reachable setting targets roots host :=
      fun host inside => progress.reachable (List.mem_append_left _ inside)
    have dues : ∀ host ∈ done, ∀ declaration ∈ due setting host,
        IsDue setting targets roots host declaration := fun host inside =>
      isDue_of_mem_due pointed (reachable host inside) (progress.served host inside).mappable
    exact (dues origin left'' declaration' isDue').eq pointed coherent (reachable origin left'')
      (reachable earlier left) (dues earlier left declaration isDue) same
  exact equal ▸ cached

end Progress

/-- The entries of the cache of a walk are different. -/
theorem nodup_cache_walk {limit : Nat} {handles : List Handle} {builder : Builder Loader}
    (walked : outcome (walk setting limit handles) {} = (.ok (), builder)) :
    builder.cache.Nodup := by
  have consistent := consistent_walk setting limit handles
  rw [walked] at consistent
  exact .of_map _ consistent.nodup

/-! ## Working through the queue -/

section

variable (pointed : setting.override.PointsTo targets) (coherent : Coherent setting targets roots)
  (apart : NamesApart setting targets roots)

include pointed coherent apart

namespace Progress

variable {done done' : List (Host Loader)} {builder builder' final : Builder Loader}

/-- A step of a walk goes on from where the walk has come. -/
theorem step (progress : Progress setting targets roots done builder) {host : Host Loader}
    {rest : List (Host Loader)} (queue : builder.queue = host :: rest) {after : Builder Loader}
    (step : outcome (mapHost setting host) (builder.dequeue host rest) = (.ok (), after)) :
    Progress setting targets roots (done ++ [host]) after := by
  by_cases known : host.identity ∈ builder.keys
  · have passed : outcome (mapHost setting host) (builder.dequeue host rest) =
        (.ok (), builder.dequeue host rest) := outcome_mapHost_of_cached known
    obtain rfl := (Prod.mk.inj (passed.symm.trans step)).2
    exact progress.pass pointed coherent queue known
  · exact progress.map pointed coherent apart queue known step

/-- A walk that ends well has worked through its queue. -/
theorem drain {limit : Nat} (progress : Progress setting targets roots done builder)
    (ended : outcome (Graph.drain setting limit) builder = (.ok (), final)) :
    ∃ more, more.length ≤ done.length + limit ∧ Progress setting targets roots more final ∧
      final.queue = [] := by
  induction limit generalizing done builder with
  | zero =>
    rw [Graph.drain, outcome_bind, outcome_get] at ended
    simp only at ended
    split_ifs at ended with idle
    · cases ended
    · cases ended
      exact ⟨done, Nat.le_refl _, progress, by simpa using idle⟩
  | succ limit ih =>
    cases queue : builder.queue with
    | nil =>
      rw [outcome_drain_nil queue] at ended
      cases ended
      exact ⟨done, Nat.le_add_right _ _, progress, queue⟩
    | cons host rest =>
      rw [outcome_drain_cons queue] at ended
      rcases step : outcome (mapHost setting host) (builder.dequeue host rest) with
        ⟨fault | _, after⟩ <;> rw [step] at ended
      · cases ended
      · obtain ⟨more, bound, progress', idle⟩ :=
          ih (progress.step pointed coherent apart queue step) ended
        rw [List.length_append, List.length_singleton] at bound
        exact ⟨more, by omega, progress', idle⟩

/-- A walk ends well within the steps that another walk from the same roots takes. -/
theorem exists_drain (progress : Progress setting targets roots done builder)
    (idle : builder.queue = []) (other : Progress setting targets roots done' builder')
    {limit : Nat} (room : done.length ≤ done'.length + limit) :
    ∃ final, outcome (Graph.drain setting limit) builder' = (.ok (), final) := by
  induction limit generalizing done' builder' with
  | zero =>
    -- As many types have left as in the walk that has ended, so none can wait.
    have bound := progress.length_le coherent idle other
    rw [List.length_append] at bound
    have empty : builder'.queue = [] := List.eq_nil_of_length_eq_zero (by omega)
    exact ⟨builder', outcome_drain_nil empty 0⟩
  | succ limit ih =>
    cases queue : builder'.queue with
    | nil => exact ⟨builder', outcome_drain_nil queue _⟩
    | cons host rest =>
      have asked : Asked setting targets roots host :=
        other.asked host (by rw [queue]; exact List.mem_append_right _ List.mem_cons_self)
      obtain ⟨earlier, left, agree⟩ := progress.mem_left coherent idle asked
      have mappable := ((progress.served earlier left).agree pointed agree).mappable
      obtain ⟨after, step⟩ := exists_outcome_mapHost pointed coherent asked.reachable mappable
        (builder'.dequeue host rest)
      rw [outcome_drain_cons queue, step]
      refine ih (other.step pointed coherent apart queue step) ?_
      rw [List.length_append, List.length_singleton]
      omega

end Progress

/-- A walk that ends well has worked through all that its roots ask for. -/
theorem progress_walk {handles : List Handle}
    (same : ∀ handle, handle ∈ handles ↔ handle ∈ roots) {limit : Nat} {builder : Builder Loader}
    (walked : outcome (walk setting limit handles) {} = (.ok (), builder)) :
    ∃ done, done.length ≤ limit ∧ Progress setting targets roots done builder ∧
      builder.queue = [] := by
  rw [walk, outcome_bind_eq_ok] at walked
  obtain ⟨_, start, enqueued, drained⟩ := walked
  have begun : Progress setting targets roots [] start := progress_enqueueRoots same enqueued
  obtain ⟨done, bound, progress, idle⟩ := begun.drain pointed coherent apart drained
  exact ⟨done, by simpa using bound, progress, idle⟩

/-- Walks from two lists of the same roots end well together, within the same number of steps,
and declare the same. -/
theorem exists_walk {handles handles' : List Handle}
    (same : ∀ handle, handle ∈ handles ↔ handle ∈ roots)
    (same' : ∀ handle, handle ∈ handles' ↔ handle ∈ roots) {limit : Nat} {builder : Builder Loader}
    (walked : outcome (walk setting limit handles) {} = (.ok (), builder)) :
    ∃ builder', outcome (walk setting limit handles') {} = (.ok (), builder') ∧
      builder.cache.Perm builder'.cache := by
  obtain ⟨done, room, progress, idle⟩ := progress_walk pointed coherent apart same walked
  obtain ⟨start, enqueued⟩ : ∃ start, outcome (enqueueRoots setting handles') {} =
      (.ok (), start) := exists_enqueueRoots_iff.mpr fun handle listed => by
    obtain ⟨host, described, _⟩ := progress.rooted handle ((same' handle).mp listed)
    exact ⟨host, described⟩
  have begun : Progress setting targets roots [] start := progress_enqueueRoots same' enqueued
  obtain ⟨builder', drained⟩ :=
    progress.exists_drain pointed coherent apart idle begun (by simpa using room)
  have walked' : outcome (walk setting limit handles') {} = (.ok (), builder') := by
    rw [walk, outcome_bind_eq_ok]
    exact ⟨(), start, enqueued, drained⟩
  obtain ⟨done', _, progress', idle'⟩ := progress_walk pointed coherent apart same' walked'
  refine ⟨builder', walked', ?_⟩
  rw [List.perm_ext_iff_of_nodup (nodup_cache_walk walked) (nodup_cache_walk walked')]
  exact fun entry => ⟨fun member => progress'.cache_subset pointed coherent idle' progress member,
    fun member => progress.cache_subset pointed coherent idle progress' member⟩

end

end TypeContracts.Graph
