import Mathlib.Data.List.Basic
import TypeContracts.Source.Distinct

/-!
# Lists in which each element counts once

What is kept of a list when the same element counts at its first place only. A property that
the same elements share is kept: some element has it before exactly when one has it afterwards
(`any_listBy`), and those that have it are kept alike when the others are left out first
(`filter_listBy`).
-/

set_option autoImplicit false

namespace TypeContracts.Distinct

variable {α : Type} {same : α → α → Bool} {p : α → Bool}

theorem filter_addBy (alike : ∀ a b, same a b = true → p a = p b) (known : List α) (one : α) :
    (addBy same known one).filter p =
      if p one then addBy same (known.filter p) one else known.filter p := by
  unfold addBy
  by_cases kept : p one = true
  · have found : (known.filter p).any (fun other => same other one) =
        known.any fun other => same other one := by
      rw [Bool.eq_iff_iff, List.any_eq_true, List.any_eq_true]
      constructor
      · rintro ⟨other, member, equal⟩
        exact ⟨other, (List.mem_filter.mp member).1, equal⟩
      · rintro ⟨other, member, equal⟩
        exact ⟨other, List.mem_filter.mpr ⟨member, (alike other one equal).trans kept⟩, equal⟩
    rw [found]
    split <;> simp [kept, List.filter_append]
  · split <;> simp [kept, List.filter_append]

theorem filter_foldl_addBy (alike : ∀ a b, same a b = true → p a = p b) (known list : List α) :
    (list.foldl (addBy same) known).filter p =
      (list.filter p).foldl (addBy same) (known.filter p) := by
  induction list generalizing known with
  | nil => rfl
  | cons one rest ih =>
    rw [List.foldl_cons, ih, filter_addBy alike]
    by_cases kept : p one = true <;> simp [kept]

/-- The elements with a property are kept alike when the others are left out first. -/
theorem filter_listBy (alike : ∀ a b, same a b = true → p a = p b) (list : List α) :
    (listBy same list).filter p = listBy same (list.filter p) :=
  filter_foldl_addBy alike [] list

theorem any_addBy (alike : ∀ a b, same a b = true → p a = p b) (known : List α) (one : α) :
    (addBy same known one).any p = (known.any p || p one) := by
  unfold addBy
  split
  next found =>
    obtain ⟨other, member, equal⟩ := List.any_eq_true.mp found
    cases kept : p one with
    | false => simp
    | true =>
      rw [Bool.or_true, List.any_eq_true]
      exact ⟨other, member, (alike other one equal).trans kept⟩
  next => simp

/-- A kept element has a property exactly when an element has it. -/
theorem any_listBy (alike : ∀ a b, same a b = true → p a = p b) (list : List α) :
    (listBy same list).any p = list.any p := by
  have step : ∀ (list known : List α),
      (list.foldl (addBy same) known).any p = (known.any p || list.any p) := by
    intro list
    induction list with
    | nil => simp
    | cons one rest ih =>
      intro known
      rw [List.foldl_cons, ih, any_addBy alike, List.any_cons, Bool.or_assoc]
  exact step list []

/-- What is kept of a list is in it. -/
theorem mem_of_mem_listBy {list : List α} {one : α} (member : one ∈ listBy same list) :
    one ∈ list := by
  have step : ∀ (list known : List α), one ∈ list.foldl (addBy same) known →
      one ∈ known ∨ one ∈ list := by
    intro list
    induction list with
    | nil => exact fun known member => .inl member
    | cons first rest ih =>
      intro known member
      rcases ih _ member with before | later
      · unfold addBy at before
        split at before
        · exact .inl before
        · rcases List.mem_append.mp before with inside | here
          · exact .inl inside
          · exact .inr (List.mem_cons.mpr (.inl (List.mem_singleton.mp here)))
      · exact .inr (List.mem_cons_of_mem _ later)
  exact (step list [] member).resolve_left (List.not_mem_nil)

theorem length_foldl_addBy_le (known list : List α) :
    (list.foldl (addBy same) known).length ≤ known.length + list.length := by
  induction list generalizing known with
  | nil => simp
  | cons one rest ih =>
    have grown : (addBy same known one).length ≤ known.length + 1 := by
      unfold addBy
      split <;> simp
    have := ih (addBy same known one)
    rw [List.foldl_cons, List.length_cons]
    omega

/-- A list of which nothing is left out is kept as it is. -/
theorem listBy_eq_of_length {list : List α} (whole : (listBy same list).length = list.length) :
    listBy same list = list := by
  have step : ∀ (list known : List α),
      (list.foldl (addBy same) known).length = known.length + list.length →
        list.foldl (addBy same) known = known ++ list := by
    intro list
    induction list with
    | nil => simp
    | cons one rest ih =>
      intro known whole
      rw [List.foldl_cons] at whole ⊢
      by_cases found : known.any (fun other => same other one) = true
      · have short : (rest.foldl (addBy same) known).length ≤ known.length + rest.length :=
          length_foldl_addBy_le known rest
        rw [addBy, if_pos found, List.length_cons] at whole
        omega
      · rw [addBy, if_neg found] at whole ⊢
        have counted : (known ++ [one]).length + rest.length =
            known.length + (one :: rest).length := by
          simp only [List.length_append, List.length_cons, List.length_nil]
          omega
        rw [ih (known ++ [one]) (whole.trans counted.symm), List.append_assoc,
          List.singleton_append]
  exact step list [] (whole.trans (Nat.zero_add _).symm)

/-- A list with more elements has those that it had and the others. -/
theorem mem_foldl_add [DecidableEq α] {known list : List α} {one : α} :
    one ∈ list.foldl add known ↔ one ∈ known ∨ one ∈ list := by
  induction list generalizing known with
  | nil => simp
  | cons first rest ih =>
    have added : one ∈ add known first ↔ one ∈ known ∨ one = first := by
      unfold add addBy
      split
      next found =>
        have member : first ∈ known := by simpa using found
        constructor
        · exact .inl
        · rintro (inside | rfl)
          · exact inside
          · exact member
      next => simp
    rw [List.foldl_cons, ih, added, List.mem_cons, or_assoc]

end TypeContracts.Distinct
