import Mathlib.Data.List.Basic
import TypeContracts.Text.LineEnds

/-!
# Line ends of a text

Unifying line ends leaves no carriage return behind, and changes nothing where there is
none. It works piece by piece, except where a piece ends between a carriage return and
the line feed that belongs to it.
-/

set_option autoImplicit false

namespace TypeContracts.Text

/-- Unified characters hold no carriage return. -/
theorem return_notMem_unifyLineEnds (cs : List Char) : '\r' ∉ unifyLineEnds cs := by
  induction cs using unifyLineEnds.induct with
  | case1 => simp [unifyLineEnds]
  | case2 rest ih => simpa [unifyLineEnds] using ih
  | case3 rest isolated ih => simpa [unifyLineEnds] using ih
  | case4 c rest paired isolated ih =>
    rw [unifyLineEnds.eq_4 c rest paired isolated, List.mem_cons, not_or]
    exact ⟨fun same => isolated same.symm, ih⟩

/-- Characters without a carriage return are unified already. -/
theorem unifyLineEnds_of_notMem {cs : List Char} (plain : '\r' ∉ cs) :
    unifyLineEnds cs = cs := by
  induction cs with
  | nil => rfl
  | cons c rest ih =>
    rw [List.mem_cons, not_or] at plain
    have isolated : c = '\r' → False := fun same => plain.1 same.symm
    rw [unifyLineEnds.eq_4 c rest (fun _ same _ => isolated same) isolated, ih plain.2]

/-- Unifying works piece by piece, unless the first piece ends in a carriage return. -/
theorem unifyLineEnds_append {front : List Char} (settled : front.getLast? ≠ some '\r')
    (behind : List Char) :
    unifyLineEnds (front ++ behind) = unifyLineEnds front ++ unifyLineEnds behind := by
  induction front using unifyLineEnds.induct with
  | case1 => rfl
  | case2 rest ih =>
    have inner : rest.getLast? ≠ some '\r' := by
      cases rest with
      | nil => simp
      | cons d others => simpa using settled
    simp [unifyLineEnds, ih inner]
  | case3 rest isolated ih =>
    cases rest with
    | nil => simp at settled
    | cons d others =>
      have other : d ≠ '\n' := fun same => isolated others (by rw [same])
      have inner : (d :: others).getLast? ≠ some '\r' := by simpa using settled
      rw [List.cons_append, List.cons_append, unifyLineEnds.eq_3 _ (by simpa using other),
        unifyLineEnds.eq_3 _ (by simpa using other), ← List.cons_append, ih inner,
        List.cons_append]
  | case4 c rest paired isolated ih =>
    have inner : rest.getLast? ≠ some '\r' := by
      cases rest with
      | nil => simp
      | cons d others => simpa using settled
    rw [List.cons_append, unifyLineEnds.eq_4 c _ (fun _ same _ => isolated same) isolated,
      unifyLineEnds.eq_4 c _ paired isolated, ih inner, List.cons_append]

/-- Characters that end in a line feed end in one when they are unified. -/
theorem getLast?_unifyLineEnds {cs : List Char} (closed : cs.getLast? = some '\n') :
    (unifyLineEnds cs).getLast? = some '\n' := by
  obtain ⟨front, rfl⟩ := List.getLast?_eq_some_iff.mp closed
  induction front using unifyLineEnds.induct with
  | case1 => rfl
  | case2 rest ih =>
    have tail := ih List.getLast?_concat
    simp [unifyLineEnds, List.getLast?_cons, tail]
  | case3 rest isolated ih =>
    cases rest with
    | nil => rfl
    | cons d others =>
      have other : d ≠ '\n' := fun same => isolated others (by rw [same])
      rw [List.cons_append, List.cons_append, unifyLineEnds.eq_3 _ (by simpa using other),
        ← List.cons_append, List.getLast?_cons, ih List.getLast?_concat]
      rfl
  | case4 c rest paired isolated ih =>
    rw [List.cons_append, unifyLineEnds.eq_4 c _ (fun _ same _ => isolated same) isolated,
      List.getLast?_cons, ih List.getLast?_concat]
    rfl

/-- A text without a carriage return is unified already. -/
theorem unified_of_notMem {text : String} (plain : '\r' ∉ text.toList) : unified text = text := by
  rw [unified, unifyLineEnds_of_notMem plain, String.ofList_toList]

theorem return_notMem_unified (text : String) : '\r' ∉ (unified text).toList := by
  rw [unified, String.toList_ofList]
  exact return_notMem_unifyLineEnds text.toList

end TypeContracts.Text
