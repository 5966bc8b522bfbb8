import TypeContracts.Proofs.Graph.Added
import TypeContracts.Proofs.Graph.Discovery

/-!
# The progress of a walk

The types that have left the queue and those that wait tell how far a walk has come
(`Graph.Progress`): whatever is asked for has left the queue or waits, and the cache holds what
is due for the types that have left. Each identity comes up once, or twice if the type asks for
itself, as such a type waits again while it is mapped. One step keeps that (`Graph.Progress.pass`,
`Graph.Progress.map`).

None of this depends on the order of the roots, only on what the roots ask for.
-/

set_option autoImplicit false

namespace TypeContracts.Graph

open MappingM Mapping

variable {Handle Loader : Type} {setting : Setting Handle Loader}
  {targets : List (String × HandWritten)} {roots : List Handle}

/-! ## What is asked for -/

/-- The type is a root, or a type that is asked for asks for it. -/
inductive Asked (setting : Setting Handle Loader) (targets : List (String × HandWritten))
    (roots : List Handle) : Host Loader → Prop where
  | root {handle : Handle} {host : Host Loader} (listed : handle ∈ roots)
    (described : setting.describe handle = .ok host) : Asked setting targets roots host
  | next {host successor : Host Loader} {found : List (Host Loader)}
    (asked : Asked setting targets roots host)
    (next : successors targets setting.source host = .ok found) (listed : successor ∈ found) :
    Asked setting targets roots successor

theorem Asked.reachable {host : Host Loader} (asked : Asked setting targets roots host) :
    Reachable setting targets roots host := by
  induction asked with
  | root listed described => exact .root listed described
  | next asked next listed ih => exact (ih.of_mem_successors next _ listed).1

/-- The type with the identity asks for itself. -/
def SelfAsking (setting : Setting Handle Loader) (targets : List (String × HandWritten))
    (roots : List Handle) (identity : Identity) : Prop :=
  ∃ host found, Reachable setting targets roots host ∧ host.identity = identity ∧
    successors targets setting.source host = .ok found ∧ identity ∈ found.map Host.identity

/-- Of the types that came up, those that have left and ask for themselves came up twice, and
all others once. -/
def Counted (setting : Setting Handle Loader) (targets : List (String × HandWritten))
    (roots : List Handle) (left history : List (Host Loader)) : Prop :=
  ∀ identity, (history.map Host.identity).count identity ≤ 2 ∧
    (2 ≤ (history.map Host.identity).count identity ↔
      identity ∈ left.map Host.identity ∧ SelfAsking setting targets roots identity)

theorem mem_identities_concat {left : List (Host Loader)} {host : Host Loader}
    {identity : Identity} : identity ∈ (left ++ [host]).map Host.identity ↔
      identity ∈ left.map Host.identity ∨ identity = host.identity := by
  rw [List.map_append, List.mem_append, List.map_singleton, List.mem_singleton]

/-! ## Progress -/

/-- The type can be mapped, what it asks for has come up, and what is due for it is declared. -/
structure Served (setting : Setting Handle Loader) (targets : List (String × HandWritten))
    (history : List (Host Loader)) (builder : Builder Loader) (host : Host Loader) : Prop where
  mappable : Mappable setting host
  closed : ∀ found, successors targets setting.source host = .ok found →
    ∀ successor ∈ found, successor.identity ∈ history.map Host.identity
  met : ∀ declaration ∈ due setting host, declaration.identity ∈ builder.keys

namespace Served

variable {history history' : List (Host Loader)} {builder builder' : Builder Loader}
  {host other : Host Loader}

theorem agree (pointed : setting.override.PointsTo targets)
    (served : Served setting targets history builder host)
    (same : Agree setting.source host other) :
    Served setting targets history builder other where
  mappable := (same.mappable pointed).mp served.mappable
  closed := same.successors ▸ served.closed
  met := same.due pointed ▸ served.met

theorem mono (served : Served setting targets history builder host)
    (known : ∀ identity ∈ history.map Host.identity, identity ∈ history'.map Host.identity)
    (keys : ∀ identity ∈ builder.keys, identity ∈ builder'.keys) :
    Served setting targets history' builder' host where
  mappable := served.mappable
  closed found next successor member := known _ (served.closed found next successor member)
  met declaration member := keys _ (served.met declaration member)

end Served

/-- How far a walk has come when the given types have left the queue. -/
structure Progress (setting : Setting Handle Loader) (targets : List (String × HandWritten))
    (roots : List Handle) (done : List (Host Loader)) (builder : Builder Loader) : Prop where
  queued : builder.Queued
  asked : ∀ host ∈ done ++ builder.queue, Asked setting targets roots host
  rooted : ∀ handle ∈ roots, ∃ host, setting.describe handle = .ok host ∧
    host.identity ∈ (done ++ builder.queue).map Host.identity
  served : ∀ host ∈ done, Served setting targets (done ++ builder.queue) builder host
  made : ∀ entry ∈ builder.cache, ∃ host ∈ done, ∃ declaration ∈ due setting host,
    entry = (declaration.identity, declaration)
  rightly : TakenRightly setting targets roots builder
  counted : Counted setting targets roots done (done ++ builder.queue)

namespace Progress

variable {done : List (Host Loader)} {builder : Builder Loader}

theorem reachable (progress : Progress setting targets roots done builder) {host : Host Loader}
    (member : host ∈ done ++ builder.queue) : Reachable setting targets roots host :=
  (progress.asked host member).reachable

variable (pointed : setting.override.PointsTo targets) (coherent : Coherent setting targets roots)

include pointed coherent

/-- A type that is declared has left the queue before, or is a date with a branded alias. -/
theorem known_cases (progress : Progress setting targets roots done builder) {host : Host Loader}
    (reached : Reachable setting targets roots host) (known : host.identity ∈ builder.keys) :
    (∃ earlier ∈ done, earlier.identity = host.identity) ∨
      (isClaimed targets host = false ∧ host.kind = .date ∧
        setting.options.dateStyle = .branded) := by
  obtain ⟨entry, member, same⟩ := List.mem_map.mp known
  obtain ⟨earlier, left, declaration, inside, rfl⟩ := progress.made entry member
  have reached' := progress.reachable (List.mem_append_left _ left)
  have mappable := (progress.served earlier left).mappable
  cases isDue_of_mem_due pointed reached' mappable declaration inside with
  | own owned identity name alone => exact .inl ⟨earlier, left, identity.symm.trans same⟩
  | synthesized synthesized =>
    cases synthesized with
    | nullable => exact absurd same.symm (coherent.unreserved host reached)
    | @branded date holds free kind style =>
      have own : date.identity = host.identity :=
        (identity_brandedDate (coherent.dates date holds kind)).symm.trans same
      have agree := coherent.agree date host holds reached own
      exact .inr ⟨agree.isClaimed ▸ free, agree.kind ▸ kind, style⟩

/-- A type that asks for others and is declared has left the queue before. -/
theorem exists_earlier (progress : Progress setting targets roots done builder)
    {host : Host Loader} (reached : Reachable setting targets roots host)
    (owned : owns targets host = true) (known : host.identity ∈ builder.keys) :
    ∃ earlier ∈ done, earlier.identity = host.identity := by
  refine (progress.known_cases pointed coherent reached known).resolve_right ?_
  rintro ⟨_, kind, _⟩
  have declared := (owns_iff.mp owned).2
  rw [kind] at declared
  cases declared

/-- What is said of the types that have left the queue holds of all that is declared. -/
theorem served_of_known (progress : Progress setting targets roots done builder)
    {host : Host Loader} (reached : Reachable setting targets roots host)
    (known : host.identity ∈ builder.keys) :
    Served setting targets (done ++ builder.queue) builder host ∧
      (SelfAsking setting targets roots host.identity →
        host.identity ∈ done.map Host.identity) := by
  rcases progress.known_cases pointed coherent reached known with
    ⟨earlier, left, same⟩ | ⟨free, kind, style⟩
  · have agree := coherent.agree earlier host
      (progress.reachable (List.mem_append_left _ left)) reached same
    exact ⟨(progress.served earlier left).agree pointed agree,
      fun _ => List.mem_map.mpr ⟨earlier, left, same⟩⟩
  · have nothing : successors targets setting.source host = .ok [] :=
      successors_of_parts_eq_nil free (by rw [kind]; decide) (by rw [Host.parts, kind])
    have script := script_date pointed free kind style
    refine ⟨⟨⟨_, congrArg Prod.fst script⟩, ?_, ?_⟩, ?_⟩
    · intro found next successor member
      rw [nothing] at next
      cases next
      cases member
    · rw [due, script]
      intro declaration member
      rw [List.mem_singleton.mp member, identity_brandedDate (coherent.dates host reached kind)]
      exact known
    · rintro ⟨other, found, reached', same, next, member⟩
      rw [(coherent.agree other host reached' reached same).successors, nothing] at next
      cases next
      cases member

/-- A declared type that leaves the queue is passed over. -/
theorem pass (progress : Progress setting targets roots done builder) {host : Host Loader}
    {rest : List (Host Loader)} (queue : builder.queue = host :: rest)
    (known : host.identity ∈ builder.keys) :
    Progress setting targets roots (done ++ [host]) (builder.dequeue host rest) := by
  have history : (done ++ [host]) ++ (builder.dequeue host rest).queue =
      done ++ builder.queue := by
    rw [queue, List.append_assoc]
    rfl
  have reached : Reachable setting targets roots host :=
    progress.reachable (by rw [queue]; exact List.mem_append_right _ List.mem_cons_self)
  obtain ⟨served, again⟩ := progress.served_of_known pointed coherent reached known
  refine ⟨(progress.queued.dequeue queue).1, ?_, ?_, ?_, ?_, progress.rightly, ?_⟩
  · rw [history]
    exact progress.asked
  · rw [history]
    exact progress.rooted
  · rw [history, List.forall_mem_append, List.forall_mem_singleton]
    exact ⟨fun earlier left => (progress.served earlier left).mono (fun _ => id) fun _ => id,
      served.mono (fun _ => id) fun _ => id⟩
  · intro entry member
    obtain ⟨earlier, left, others⟩ := progress.made entry member
    exact ⟨earlier, List.mem_append_left _ left, others⟩
  · intro identity
    obtain ⟨most, twice⟩ := progress.counted identity
    rw [history, mem_identities_concat]
    refine ⟨most, twice.trans (and_congr_left fun asking => (or_iff_left_of_imp ?_).symm)⟩
    rintro rfl
    exact again asking

/-- An object or an enumeration that has left the queue is declared. -/
theorem mem_keys_of_left (progress : Progress setting targets roots done builder)
    {host : Host Loader} (reached : Reachable setting targets roots host)
    (owned : owns targets host = true) (left : host.identity ∈ done.map Host.identity) :
    host.identity ∈ builder.keys := by
  obtain ⟨earlier, member, same⟩ := List.mem_map.mp left
  have reached' := progress.reachable (List.mem_append_left _ member)
  have owned' := (coherent.agree earlier host reached' reached same).owns.trans owned
  obtain ⟨declaration, isDue, own⟩ :=
    exists_due_of_owns pointed reached' owned' (progress.served earlier member).mappable
  rw [← same, ← own]
  exact (progress.served earlier member).met declaration isDue

/-- A type that is neither declared nor waits behind the type that leaves the queue has come up
before only if it is that type. -/
theorem count_of_new (progress : Progress setting targets roots done builder)
    {host other : Host Loader} {rest : List (Host Loader)} (queue : builder.queue = host :: rest)
    (reached : Reachable setting targets roots other) (owned : owns targets other = true)
    (undeclared : other.identity ∉ builder.keys)
    (unasked : other.identity ∉ rest.map Host.identity) :
    other.identity ∉ done.map Host.identity ∧
      ((done ++ builder.queue).map Host.identity).count other.identity =
        if host.identity = other.identity then 1 else 0 := by
  have stays : other.identity ∉ done.map Host.identity := fun left =>
    undeclared (progress.mem_keys_of_left pointed coherent reached owned left)
  refine ⟨stays, ?_⟩
  rw [queue, List.map_append, List.count_append, List.map_cons,
    List.count_eq_zero_of_not_mem stays, List.count_cons, List.count_eq_zero_of_not_mem unasked,
    Nat.zero_add, Nat.zero_add]
  simp only [beq_iff_eq]

omit pointed in
/-- A type that asks for itself comes up again when it is mapped. -/
theorem mem_firsts_of_selfAsking (progress : Progress setting targets roots done builder)
    {host : Host Loader} {rest found : List (Host Loader)} (queue : builder.queue = host :: rest)
    (new : host.identity ∉ builder.keys)
    (reached : Reachable setting targets roots host)
    (next : successors targets setting.source host = .ok found)
    (asking : SelfAsking setting targets roots host.identity) :
    host.identity ∈ (firsts Host.identity (builder.keys ++ rest.map Host.identity) found).map
      Host.identity := by
  obtain ⟨other, found', reached', same, next', member⟩ := asking
  rw [(coherent.agree other host reached' reached same).successors, next] at next'
  obtain rfl : found = found' := Except.ok.inj next'
  obtain ⟨successor, inside, same'⟩ := List.mem_map.mp member
  have somewhere : successor.identity ∈ builder.keys ++ rest.map Host.identity ∨ _ :=
    key_mem_firsts inside
  rw [same', List.mem_append] at somewhere
  rcases somewhere with (known | waits) | first
  · exact absurd known new
  · exact absurd waits (progress.queued.dequeue queue).2
  · exact first

/-- The types that come up when a type is mapped that is not declared yet have not come up
before, apart from the type itself. -/
theorem counted_firsts (progress : Progress setting targets roots done builder) {host : Host Loader}
    {rest found : List (Host Loader)} (queue : builder.queue = host :: rest)
    (new : host.identity ∉ builder.keys)
    (next : successors targets setting.source host = .ok found) :
    Counted setting targets roots (done ++ [host]) (done ++ builder.queue ++
      firsts Host.identity (builder.keys ++ rest.map Host.identity) found) := by
  intro identity
  have reached : Reachable setting targets roots host :=
    progress.reachable (by rw [queue]; exact List.mem_append_right _ List.mem_cons_self)
  obtain ⟨most, twice⟩ := progress.counted identity
  rw [List.map_append, List.count_append, mem_identities_concat]
  have once : ((firsts Host.identity (builder.keys ++ rest.map Host.identity) found).map
    Host.identity).Nodup := nodup_firsts _ _
  by_cases fresh : identity ∈
    (firsts Host.identity (builder.keys ++ rest.map Host.identity) found).map Host.identity
  · rw [List.count_eq_one_of_mem once fresh]
    obtain ⟨successor, member, rfl⟩ := List.mem_map.mp fresh
    obtain ⟨inside, unknown⟩ := mem_of_mem_firsts member
    rw [List.mem_append, not_or] at unknown
    obtain ⟨reached', owned⟩ := reached.of_mem_successors next successor inside
    obtain ⟨stays, before⟩ :=
      progress.count_of_new pointed coherent queue reached' owned unknown.1 unknown.2
    rw [before]
    by_cases itself : host.identity = successor.identity
    · rw [if_pos itself]
      exact ⟨Nat.le_refl 2, fun _ => ⟨.inr itself.symm, host, found, reached, itself, next,
        List.mem_map.mpr ⟨successor, inside, rfl⟩⟩, fun _ => Nat.le_refl 2⟩
    · rw [if_neg itself]
      refine ⟨by omega, fun _ => by omega, ?_⟩
      rintro ⟨left | same, _⟩
      · exact absurd left stays
      · exact absurd same.symm itself
  · rw [List.count_eq_zero_of_not_mem fresh, Nat.add_zero]
    refine ⟨most, twice.trans (and_congr_left fun asking => (or_iff_left_of_imp ?_).symm)⟩
    rintro rfl
    exact absurd
      (progress.mem_firsts_of_selfAsking coherent queue new reached next asking) fresh

/-- A type that is not declared yet is mapped when it leaves the queue. -/
theorem map (apart : NamesApart setting targets roots)
    (progress : Progress setting targets roots done builder) {host : Host Loader}
    {rest : List (Host Loader)} (queue : builder.queue = host :: rest)
    (new : host.identity ∉ builder.keys) {after : Builder Loader}
    (step : outcome (mapHost setting host) (builder.dequeue host rest) = (.ok (), after)) :
    Progress setting targets roots (done ++ [host]) after := by
  have asked : Asked setting targets roots host :=
    progress.asked host (by rw [queue]; exact List.mem_append_right _ List.mem_cons_self)
  have reached := asked.reachable
  have new' : host.identity ∉ (builder.dequeue host rest).keys := new
  have before : TakenRightly setting targets roots (builder.dequeue host rest) := progress.rightly
  obtain ⟨found, explored⟩ :=
    explored_mapHost pointed coherent reached (progress.queued.dequeue queue).1 new step
  obtain ⟨rightly, added⟩ := added_mapHost pointed apart reached before new' step
  have counted := progress.counted_firsts pointed coherent queue new explored.next
  have history : (done ++ [host]) ++ after.queue = done ++ builder.queue ++
      firsts Host.identity (builder.keys ++ rest.map Host.identity) found := by
    rw [explored.queue, queue]
    simp only [List.append_assoc]
    rfl
  have known : ∀ identity ∈ (done ++ builder.queue).map Host.identity,
      identity ∈ ((done ++ [host]) ++ after.queue).map Host.identity := by
    intro identity member
    rw [history, List.map_append]
    exact List.mem_append_left _ member
  refine ⟨explored.queued, ?_, ?_, ?_, ?_, rightly, history ▸ counted⟩
  · rw [history, List.forall_mem_append]
    exact ⟨progress.asked, fun successor member =>
      .next asked explored.next (mem_of_mem_firsts member).1⟩
  · intro handle listed
    obtain ⟨root, described, member⟩ := progress.rooted handle listed
    exact ⟨root, described, known _ member⟩
  · rw [List.forall_mem_append, List.forall_mem_singleton]
    refine ⟨fun earlier left => (progress.served earlier left).mono known added.keys,
      mappable_of_outcome pointed new' step, ?_, added.met⟩
    intro found' next successor member
    obtain rfl : found = found' := Except.ok.inj (explored.next.symm.trans next)
    obtain ⟨reached', owned⟩ := reached.of_mem_successors next successor member
    have somewhere : successor.identity ∈ builder.keys ++ rest.map Host.identity ∨ _ :=
      key_mem_firsts member
    rcases somewhere with old | first
    · refine known _ ?_
      rw [queue, List.map_append, List.mem_append, List.map_cons, List.mem_cons]
      rcases List.mem_append.mp old with declared | waits
      · obtain ⟨earlier, left, same⟩ :=
          progress.exists_earlier pointed coherent reached' owned declared
        exact .inl (List.mem_map.mpr ⟨earlier, left, same⟩)
      · exact .inr (.inr waits)
    · rw [history, List.map_append]
      exact List.mem_append_right _ first
  · intro entry member
    rcases added.made entry member with old | ⟨declaration, isDue, same⟩
    · obtain ⟨earlier, left, others⟩ := progress.made entry old
      exact ⟨earlier, List.mem_append_left _ left, others⟩
    · exact ⟨host, List.mem_append_right _ (List.mem_singleton_self _), declaration, isDue, same⟩

end Progress

end TypeContracts.Graph
