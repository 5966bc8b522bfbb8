import Mathlib.Data.List.Basic
import Mathlib.Data.List.TakeWhile
import Mathlib.Tactic.Conv
import TypeContracts.Text.Blank

/-!
# Blanks at the ends

Trimming takes characters away (`Text.trim_sublist`), and it takes none exactly when there is no
white space at either end (`Text.trim_eq_self_iff`).
-/

set_option autoImplicit false

namespace TypeContracts.Text

variable {cs : List Char}

/-- The characters have no white space at either end. -/
def IsTrimmed (cs : List Char) : Prop :=
  (∀ c ∈ cs.head?, isBlank c = false) ∧ ∀ c ∈ cs.getLast?, isBlank c = false

-- The quantifiers over characters by themselves would be decided by trying all characters.
instance (cs : List Char) : Decidable (IsTrimmed cs) :=
  decidable_of_iff ((cs.head?.all fun c => !isBlank c) ∧ cs.getLast?.all fun c => !isBlank c)
    (by simp [IsTrimmed, Option.all_eq_true])

theorem trimLeft_sublist (cs : List Char) : (trimLeft cs).Sublist cs := List.dropWhile_sublist _

theorem trimRight_sublist (cs : List Char) : (trimRight cs).Sublist cs := by
  rw [← List.reverse_sublist, trimRight, List.reverse_reverse]
  exact List.dropWhile_sublist _

theorem trim_sublist (cs : List Char) : (trim cs).Sublist cs :=
  (trimRight_sublist _).trans (trimLeft_sublist cs)

theorem trimLeft_eq_self_iff : trimLeft cs = cs ↔ ∀ c ∈ cs.head?, isBlank c = false := by
  rw [trimLeft, List.dropWhile_eq_self_iff]
  cases cs <;> simp

theorem trimRight_eq_self_iff : trimRight cs = cs ↔ ∀ c ∈ cs.getLast?, isBlank c = false := by
  rw [← List.head?_reverse, ← trimLeft_eq_self_iff, trimRight, List.reverse_eq_iff]
  rfl

theorem trim_eq_self_iff : trim cs = cs ↔ IsTrimmed cs := by
  rw [IsTrimmed, ← trimLeft_eq_self_iff, ← trimRight_eq_self_iff]
  constructor
  · intro same
    have left : trimLeft cs = cs := (trimLeft_sublist cs).antisymm <| by
      conv_lhs => rw [← same]
      exact trimRight_sublist _
    exact ⟨left, by rwa [trim, left] at same⟩
  · rintro ⟨left, right⟩
    rw [trim, left, right]

end TypeContracts.Text
