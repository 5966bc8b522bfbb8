import Mathlib.Data.List.Nodup

/-!
# Lists in order and without repetitions

A list that is sorted by names is in the order of the names. When repetitions are left out, the
first item of each key stays where it is (`Listing.nodup_map_eraseDupsBy`), and nothing is left out
exactly when the keys differ (`Listing.eraseDupsBy_eq_self_iff`).
-/

set_option autoImplicit false

namespace TypeContracts.Listing

variable {α β : Type} {items : List α}

/-- Items that are sorted by their names are in the order of the names. -/
theorem sorted_mergeSort (name : α → String) (items : List α) :
    (items.mergeSort fun a b => decide (name a ≤ name b)).Pairwise fun a b => name a ≤ name b := by
  refine (List.pairwise_mergeSort ?_ ?_ items).imp fun before => of_decide_eq_true before
  · intro a b c before behind
    rw [decide_eq_true_eq] at before behind ⊢
    exact String.le_trans before behind
  · intro a b
    simpa using String.le_total (name a) (name b)

/-! ## Without repetitions -/

/-- What is left without repetitions keeps its order. -/
theorem eraseDupsBy_sublist (same : α → α → Bool) :
    ∀ items : List α, (items.eraseDupsBy same).Sublist items
  | [] => List.Sublist.refl _
  | item :: rest => by
    rw [List.eraseDupsBy_cons]
    exact ((eraseDupsBy_sublist same _).trans List.filter_sublist).cons_cons item
termination_by items => items.length
decreasing_by exact Nat.lt_succ_of_le (List.length_filter_le _ _)

variable [BEq β] [LawfulBEq β]

/-- What is left without repetitions has different keys. -/
theorem nodup_map_eraseDupsBy (key : α → β) :
    ∀ items : List α, ((items.eraseDupsBy fun a b => key a == key b).map key).Nodup
  | [] => .nil
  | item :: rest => by
    rw [List.eraseDupsBy_cons, List.map_cons, List.nodup_cons]
    refine ⟨fun member => ?_, nodup_map_eraseDupsBy key _⟩
    obtain ⟨other, inside, equal⟩ := List.mem_map.mp member
    have kept := (List.mem_filter.mp ((eraseDupsBy_sublist _ _).mem inside)).2
    simp [equal] at kept
termination_by items => items.length
decreasing_by exact Nat.lt_succ_of_le (List.length_filter_le _ _)

/-- There are no repetitions exactly when the keys differ. -/
theorem eraseDupsBy_eq_self_iff {key : α → β} :
    (items.eraseDupsBy fun a b => key a == key b) = items ↔ (items.map key).Nodup := by
  constructor
  · intro same
    rw [← same]
    exact nodup_map_eraseDupsBy key items
  · intro distinct
    induction items with
    | nil => rfl
    | cons item rest ih =>
      rw [List.map_cons, List.nodup_cons] at distinct
      have other : ∀ later ∈ rest, decide ((key later == key item) = false) = true := by
        intro later member
        have different : key later ≠ key item := fun equal =>
          distinct.1 (equal ▸ List.mem_map_of_mem member)
        simpa using different
      rw [List.eraseDupsBy_cons, List.filter_eq_self.mpr other, ih distinct.2]

theorem nodup_eraseDups (keys : List β) : keys.eraseDups.Nodup := by
  have distinct := nodup_map_eraseDupsBy id keys
  rwa [List.map_id] at distinct

/-- Without repetitions, a list keeps its order. -/
theorem pairwise_eraseDups {keys : List β} {relation : β → β → Prop}
    (ordered : keys.Pairwise relation) :
    keys.eraseDups.Pairwise fun a b => relation a b ∧ a ≠ b :=
  (ordered.sublist (eraseDupsBy_sublist _ keys)).and (nodup_eraseDups keys)

end TypeContracts.Listing
