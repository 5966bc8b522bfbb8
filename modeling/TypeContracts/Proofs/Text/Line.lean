import Mathlib.Data.List.Basic
import TypeContracts.Proofs.Text.Pieces

/-!
# Texts on one line

A text that holds no line feed is one line of whatever it is written into. Texts on one line
stay on one line when they are put together, and lines that are joined by line feeds are the
lines of the whole (`cut_join_feed`).
-/

set_option autoImplicit false

namespace TypeContracts.Text

/-- The text holds no line feed. -/
def IsLine (text : String) : Prop := '\n' ∉ text.toList

instance (text : String) : Decidable (IsLine text) := inferInstanceAs (Decidable (_ ∉ _))

@[simp] theorem isLine_append {first second : String} :
    IsLine (first ++ second) ↔ IsLine first ∧ IsLine second := by
  simp only [IsLine, String.toList_append, List.mem_append, not_or]

/-- Lines joined by a text on one line make one line. -/
theorem isLine_join {separator : String} (between : IsLine separator) {texts : List String}
    (lines : ∀ text ∈ texts, IsLine text) : IsLine (join separator texts) := by
  rw [join]
  induction texts with
  | nil => simp [IsLine]
  | cons text rest ih =>
    rw [List.forall_mem_cons] at lines
    cases rest with
    | nil => rw [String.intercalate_singleton]; exact lines.1
    | cons next others =>
      rw [String.intercalate_cons_cons, isLine_append, isLine_append]
      exact ⟨⟨lines.1, between⟩, ih lines.2⟩

/-- The lines of a text hold no line feed. -/
theorem isLine_of_mem_cut {text piece : String} (member : piece ∈ cut '\n' text) :
    IsLine piece := by
  obtain ⟨cs, isPiece, rfl⟩ := List.mem_map.mp member
  rw [IsLine, String.toList_ofList]
  exact notMem_of_mem_pieces isPiece

/-- A text on one line has one line. -/
theorem cut_of_isLine {text : String} (line : IsLine text) : cut '\n' text = [text] := by
  rw [cut, pieces_of_notMem line, List.map_singleton, String.ofList_toList]

/-- What is joined by line feeds is glued by them. -/
theorem toList_join_feed (texts : List String) :
    (join "\n" texts).toList = glue '\n' (texts.map String.toList) := by
  rw [join]
  induction texts with
  | nil => simp [glue]
  | cons text rest ih =>
    cases rest with
    | nil => rw [String.intercalate_singleton]; rfl
    | cons next others =>
      rw [String.intercalate_cons_cons, String.toList_append, String.toList_append, ih]
      simp [glue]

/-- The lines of a text that is joined from lines are the lines that it is joined from. -/
theorem cut_join_feed {texts : List String} (proper : texts ≠ [])
    (lines : ∀ text ∈ texts, IsLine text) : cut '\n' (join "\n" texts) = texts := by
  have plain : ∀ part ∈ texts.map String.toList, '\n' ∉ part := by
    intro part member
    obtain ⟨text, inside, rfl⟩ := List.mem_map.mp member
    exact lines text inside
  rw [cut, toList_join_feed, pieces_glue (by simpa using proper) plain, List.map_map]
  simp [Function.comp_def]

/-- A text with a line feed behind it is its lines, each with a line feed behind it. -/
theorem join_cut_feed (text : String) :
    String.join ((cut '\n' text).map (· ++ "\n")) = text ++ "\n" := by
  have glued : ∀ {parts : List (List Char)}, parts ≠ [] →
      parts.flatMap (· ++ ['\n']) = glue '\n' parts ++ ['\n'] := by
    intro parts proper
    induction parts using glue.induct with
    | case1 => exact absurd rfl proper
    | case2 part => simp [glue]
    | case3 part second others ih =>
      rw [List.flatMap_cons, ih (by simp), glue]
      simp
  apply String.toList_injective
  rw [String.toList_join, String.toList_append, cut, List.map_map, List.flatMap_map]
  simp only [Function.comp_apply, String.toList_append, String.toList_ofList]
  rw [show "\n".toList = ['\n'] from rfl, glued (pieces_ne_nil '\n' text.toList), glue_pieces]

end TypeContracts.Text
