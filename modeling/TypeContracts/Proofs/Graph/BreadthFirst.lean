import Mathlib.Data.List.Basic

/-!
# Breadth-first exploration

An exploration works through a queue of items that are told apart by keys. It takes the
first item, and puts behind the queue those of its successors whose key is new, each key
once (`Graph.firsts`). The order in which items are taken is the order in which they are
discovered (`Graph.BreadthFirst`).

An exploration finds exactly what can be reached: its order holds the queue and, for each
of its items, the keys of all successors (`BreadthFirst.closed`), and it holds nothing but
items of the queue and their successors (`BreadthFirst.sound`).
-/

set_option autoImplicit false

namespace TypeContracts.Graph

variable {α κ ε : Type} [DecidableEq κ] {key : α → κ}

/-! ## First occurrences -/

/-- The items whose key is new, each key once. -/
def firsts (key : α → κ) (seen : List κ) : List α → List α
  | [] => []
  | item :: rest =>
    if key item ∈ seen then firsts key seen rest
    else item :: firsts key (seen ++ [key item]) rest

theorem firsts_sublist (seen : List κ) (items : List α) : (firsts key seen items).Sublist items := by
  induction items generalizing seen with
  | nil => exact List.Sublist.refl []
  | cons first rest ih =>
    rw [firsts]
    split
    · exact (ih seen).cons first
    · exact (ih _).cons_cons first

theorem mem_of_mem_firsts {seen : List κ} {items : List α} {item : α}
    (member : item ∈ firsts key seen items) : item ∈ items ∧ key item ∉ seen := by
  induction items generalizing seen with
  | nil => cases member
  | cons first rest ih =>
    rw [firsts] at member
    split at member
    · exact (ih member).imp_left (List.mem_cons_of_mem _)
    next new =>
      rcases List.mem_cons.mp member with rfl | later
      · exact ⟨List.mem_cons_self, new⟩
      · obtain ⟨inside, unseen⟩ := ih later
        exact ⟨List.mem_cons_of_mem _ inside, fun old => unseen (List.mem_append_left _ old)⟩

/-- Every key is seen already or comes first somewhere. -/
theorem key_mem_firsts {seen : List κ} {items : List α} {item : α} (member : item ∈ items) :
    key item ∈ seen ∨ key item ∈ (firsts key seen items).map key := by
  induction items generalizing seen with
  | nil => cases member
  | cons first rest ih =>
    rw [firsts]
    split
    next old =>
      rcases List.mem_cons.mp member with rfl | later
      · exact .inl old
      · exact ih later
    next =>
      rw [List.map_cons, List.mem_cons]
      rcases List.mem_cons.mp member with rfl | later
      · exact .inr (.inl rfl)
      · have known : key item ∈ seen ++ [key first] ∨
            key item ∈ (firsts key (seen ++ [key first]) rest).map key := ih later
        rcases known with old | new
        · rw [List.mem_append, List.mem_singleton] at old
          exact old.imp_right .inl
        · exact .inr (.inr new)

theorem nodup_firsts (seen : List κ) (items : List α) :
    ((firsts key seen items).map key).Nodup := by
  induction items generalizing seen with
  | nil => exact List.nodup_nil
  | cons first rest ih =>
    rw [firsts]
    split
    · exact ih seen
    · rw [List.map_cons, List.nodup_cons]
      refine ⟨fun again => ?_, ih _⟩
      obtain ⟨item, member, same⟩ := List.mem_map.mp again
      exact (mem_of_mem_firsts member).2 (by simp [same])

/-- Only the keys of the items themselves count as seen. -/
theorem firsts_congr {seen seen' : List κ} {items : List α}
    (same : ∀ item ∈ items, key item ∈ seen ↔ key item ∈ seen') :
    firsts key seen items = firsts key seen' items := by
  induction items generalizing seen seen' with
  | nil => rfl
  | cons first rest ih =>
    rw [List.forall_mem_cons] at same
    have further : firsts key (seen ++ [key first]) rest = firsts key (seen' ++ [key first]) rest :=
      ih fun item member => by rw [List.mem_append, List.mem_append, same.2 item member]
    rw [firsts, firsts, ih same.2, further]
    simp only [same.1]

/-- First occurrences are found piece by piece. -/
theorem firsts_append (seen : List κ) (front behind : List α) :
    firsts key seen (front ++ behind) =
      firsts key seen front ++ firsts key (seen ++ (firsts key seen front).map key) behind := by
  induction front generalizing seen with
  | nil => rw [firsts, List.map_nil, List.append_nil, List.nil_append, List.nil_append]
  | cons first rest ih =>
    rw [List.cons_append, firsts, firsts]
    split
    · exact ih seen
    · rw [ih, List.map_cons, List.cons_append, List.append_assoc, List.singleton_append]

/-- Leaving a key out of the first occurrences is to have seen it before. -/
theorem filter_firsts (seen : List κ) (extra : κ) (items : List α) :
    (firsts key seen items).filter (fun item => key item ≠ extra) =
      firsts key (seen ++ [extra]) items := by
  induction items generalizing seen with
  | nil => rfl
  | cons first rest ih =>
    rw [firsts, firsts]
    by_cases old : key first ∈ seen
    · rw [if_pos old, if_pos (List.mem_append_left _ old), ih]
    by_cases same : key first = extra
    · rw [if_neg old, if_pos (by simp [same]), List.filter_cons_of_neg (by simpa using same), ih,
        same]
      exact firsts_congr fun item _ => by simp
    · rw [if_neg old, if_neg (by simp [old, same]), List.filter_cons_of_pos (by simpa using same),
        ih]
      refine congrArg _ (firsts_congr fun item _ => ?_)
      simp only [List.mem_append, List.mem_singleton]
      tauto

/-! ## Exploring -/

/-- From a queue, with the keys that were seen so far, the items are explored in the given
order. -/
inductive BreadthFirst (key : α → κ) (next : α → Except ε (List α)) :
    List α → List κ → List α → Prop where
  | done (seen : List κ) : BreadthFirst key next [] seen []
  | visit {item : α} {rest found order : List α} {seen : List κ}
      (successors : next item = .ok found)
    (further : BreadthFirst key next (rest ++ firsts key seen found)
      (seen ++ (firsts key seen found).map key) order) :
    BreadthFirst key next (item :: rest) seen (item :: order)

variable {next : α → Except ε (List α)}

namespace BreadthFirst

/-- The queue is explored, and what is explored has explored successors. -/
theorem closed {queue order : List α} {seen : List κ}
    (explored : BreadthFirst key next queue seen order) :
    (∀ item ∈ queue, item ∈ order) ∧
      ∀ item ∈ order, ∃ found, next item = .ok found ∧
        ∀ successor ∈ found, key successor ∈ seen ∨ key successor ∈ order.map key := by
  induction explored with
  | done seen => simp
  | @visit item rest found order seen successors further ih =>
    obtain ⟨queued, closed⟩ := ih
    rw [List.forall_mem_append] at queued
    refine ⟨?_, ?_⟩
    · rw [List.forall_mem_cons]
      exact ⟨List.mem_cons_self, fun other member => List.mem_cons_of_mem _ (queued.1 other member)⟩
    · -- A key that was first among the successors is in the queue behind this item.
      have discovered : ∀ k ∈ seen ++ (firsts key seen found).map key,
          k ∈ seen ∨ k ∈ (item :: order).map key := by
        intro k member
        refine (List.mem_append.mp member).imp_right fun new => ?_
        obtain ⟨other, first, rfl⟩ := List.mem_map.mp new
        exact List.mem_cons_of_mem _ (List.mem_map.mpr ⟨other, queued.2 other first, rfl⟩)
      rw [List.forall_mem_cons]
      refine ⟨⟨found, successors, fun successor member => ?_⟩, fun other member => ?_⟩
      · exact discovered _ (List.mem_append.mpr (key_mem_firsts member))
      · obtain ⟨found', successors', known⟩ := closed other member
        refine ⟨found', successors', fun successor inside => ?_⟩
        rcases known successor inside with old | new
        · exact discovered _ old
        · exact .inr (List.mem_cons_of_mem _ new)

/-- What holds of the queue and is handed on to successors holds of all that is explored. -/
theorem sound {property : α → Prop} {queue order : List α} {seen : List κ}
    (explored : BreadthFirst key next queue seen order)
    (step : ∀ item found, property item → next item = .ok found →
      ∀ successor ∈ found, property successor)
    (queued : ∀ item ∈ queue, property item) : ∀ item ∈ order, property item := by
  induction explored with
  | done seen => simp
  | visit successors further ih =>
    rw [List.forall_mem_cons] at queued ⊢
    refine ⟨queued.1, ih ?_⟩
    rw [List.forall_mem_append]
    exact ⟨queued.2, fun other member =>
      step _ _ queued.1 successors other (mem_of_mem_firsts member).1⟩

/-- No key is explored twice, and none that was seen before, except those of the queue. -/
theorem nodup {queue order : List α} {seen : List κ}
    (explored : BreadthFirst key next queue seen order) (apart : (queue.map key).Nodup)
    (known : ∀ item ∈ queue, key item ∈ seen) :
    (order.map key).Nodup ∧ ∀ item ∈ order, key item ∈ queue.map key ∨ key item ∉ seen := by
  induction explored with
  | done seen => simp
  | @visit item rest found order seen successors further ih =>
    rw [List.forall_mem_cons] at known
    rw [List.map_cons, List.nodup_cons] at apart
    have new : ∀ k ∈ (firsts key seen found).map key, k ∉ seen := by
      intro k member
      obtain ⟨other, first, rfl⟩ := List.mem_map.mp member
      exact (mem_of_mem_firsts first).2
    obtain ⟨apart', origin⟩ := ih
      (by
        rw [List.map_append, List.nodup_append]
        refine ⟨apart.2, nodup_firsts seen found, fun k old k' fresh same => ?_⟩
        obtain ⟨other, member, rfl⟩ := List.mem_map.mp old
        exact new k' fresh (same ▸ known.2 other member))
      (by
        rw [List.forall_mem_append]
        exact ⟨fun other member => List.mem_append_left _ (known.2 other member),
          fun other member => List.mem_append_right _ (List.mem_map.mpr ⟨other, member, rfl⟩)⟩)
    have source : ∀ other ∈ order, key other ∈ rest.map key ∨ key other ∉ seen := by
      intro other member
      simp only [List.map_append, List.mem_append, not_or] at origin
      rcases origin other member with (old | fresh) | ⟨unseen, _⟩
      · exact .inl old
      · exact .inr (new _ fresh)
      · exact .inr unseen
    refine ⟨?_, ?_⟩
    · rw [List.map_cons, List.nodup_cons]
      refine ⟨fun again => ?_, apart'⟩
      obtain ⟨other, member, same⟩ := List.mem_map.mp again
      rcases source other member with old | unseen
      · exact apart.1 (same ▸ old)
      · exact unseen (same ▸ known.1)
    · rw [List.forall_mem_cons]
      exact ⟨.inl List.mem_cons_self, fun other member =>
        (source other member).imp_left (List.mem_cons_of_mem _)⟩

end BreadthFirst

end TypeContracts.Graph
