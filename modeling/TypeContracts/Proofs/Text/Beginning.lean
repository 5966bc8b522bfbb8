import Mathlib.Data.List.Basic
import TypeContracts.Text.Pieces

/-!
# Beginnings of a text

`after?` removes a beginning: it succeeds exactly on the texts that have it
(`after?_eq_some_iff`), and more text behind changes nothing of what it finds, as long as
the text was long enough to decide the question.
-/

set_option autoImplicit false

namespace TypeContracts.Text

/-- What stands after a beginning is what is left when the beginning is taken away. -/
theorem after?_eq_some_iff {beginning cs rest : List Char} :
    after? beginning cs = some rest ↔ cs = beginning ++ rest := by
  induction beginning generalizing cs with
  | nil => simp [after?, eq_comm]
  | cons p ps ih =>
    cases cs with
    | nil => simp [after?]
    | cons c cs =>
      by_cases same : p = c
      · simp [after?, same, ih]
      · simp [after?, same, Ne.symm same]

theorem after?_append (beginning rest : List Char) :
    after? beginning (beginning ++ rest) = some rest :=
  after?_eq_some_iff.mpr rfl

/-- A beginning without a character is taken from what stands in front of that character. -/
theorem after?_append_cons {beginning : List Char} {c : Char} (plain : c ∉ beginning)
    (cs behind : List Char) :
    after? beginning (cs ++ c :: behind) = (after? beginning cs).map (· ++ c :: behind) := by
  induction beginning generalizing cs with
  | nil => rfl
  | cons p ps ih =>
    rw [List.mem_cons, not_or] at plain
    cases cs with
    | nil => simp [after?, Ne.symm plain.1]
    | cons d rest =>
      by_cases same : p = d
      · simp [after?, same, ih plain.2]
      · simp [after?, same]

theorem dropStart?_eq_some_iff {beginning text rest : String} :
    dropStart? beginning text = some rest ↔ text = beginning ++ rest := by
  rw [dropStart?, Option.map_eq_some_iff, ← String.toList_inj, String.toList_append]
  constructor
  · rintro ⟨cs, found, rfl⟩
    rw [String.toList_ofList]
    exact after?_eq_some_iff.mp found
  · exact fun split => ⟨rest.toList, after?_eq_some_iff.mpr split, String.ofList_toList⟩

theorem startsWith_append (beginning rest : String) :
    startsWith beginning (beginning ++ rest) = true := by
  rw [startsWith, dropStart?_eq_some_iff.mpr rfl]
  rfl

/-- A text that is long enough to show that it has not the beginning shows it also with
more text behind. -/
theorem after?_append_eq_none {beginning cs : List Char} (missing : after? beginning cs = none)
    (long : beginning.length ≤ cs.length) (behind : List Char) :
    after? beginning (cs ++ behind) = none := by
  rw [Option.eq_none_iff_forall_ne_some] at missing ⊢
  intro rest found
  have whole := after?_eq_some_iff.mp found
  obtain ⟨middle, split⟩ : ∃ middle, cs = beginning ++ middle := by
    rcases List.append_eq_append_iff.mp whole with ⟨middle, split, _⟩ | ⟨middle, split, _⟩
    · have empty : middle = [] := by
        rw [split, List.length_append] at long
        exact List.eq_nil_of_length_eq_zero (by omega)
      exact ⟨[], by rw [split, empty]; simp⟩
    · exact ⟨middle, split⟩
  exact missing middle (after?_eq_some_iff.mpr split)

end TypeContracts.Text
