import Mathlib.Tactic.SplitIfs
import TypeContracts.Proofs.Text.Beginning
import TypeContracts.Proofs.Text.Blank
import TypeContracts.Proofs.Text.Pieces
import TypeContracts.UnitPath

/-!
# Normal unit paths

A normal path is put together from segments that are kept: none is empty or names the
directory itself, and none holds a slash. Only the empty path has an empty segment, its
last one. The segments are told from the normal path (`UnitPath.normalise_eq_iff`), so that
whether one unit can import another is a matter of their normal paths
(`UnitPath.exists_resolveImport_iff`).
-/

set_option autoImplicit false

namespace TypeContracts.UnitPath

/-! ## Cutting paths -/

theorem withSlashes_eq_self {path : List Char} (plain : '\\' ∉ path) :
    withSlashes path = path := by
  conv_rhs => rw [← List.map_id path]
  refine List.map_congr_left fun c member => if_neg ?_
  rintro rfl
  exact plain member

theorem notMem_withSlashes (path : List Char) : '\\' ∉ withSlashes path := by
  rw [withSlashes, List.mem_map]
  rintro ⟨c, -, same⟩
  split_ifs at same with slash
  · cases same
  · exact slash same

/-- The extension is taken away once, where there is one. -/
theorem dropExtension_cases (path : List Char) :
    dropExtension path = path ∨ path = dropExtension path ++ ['.', 't', 's'] := by
  rw [dropExtension]
  split
  next front found =>
    refine .inr ?_
    rw [← List.reverse_inj, Text.after?_eq_some_iff.mp found]
    simp
  next => exact .inl rfl

theorem dropExtension_sublist (path : List Char) : (dropExtension path).Sublist path := by
  rcases dropExtension_cases path with same | split
  · rw [same]
  · conv_rhs => rw [split]
    exact List.sublist_append_left _ _

/-- The segments of a path are kept and hold no slash. -/
theorem isKept_of_mem_segments {path : List Char} {segment : Segment}
    (member : segment ∈ segments path) : isKept segment = true ∧ '/' ∉ segment := by
  obtain ⟨piece, kept⟩ := List.mem_filter.mp member
  exact ⟨kept, Text.notMem_of_mem_pieces piece⟩

/-! ## Normal forms -/

/-- A normal path is put together from kept segments and one behind them. -/
theorem exists_toList_normalise (path : String) :
    ∃ front last, (normalise path).toList = Text.glue '/' (front ++ [last]) ∧
      (∀ segment ∈ front, isKept segment = true ∧ '/' ∉ segment) ∧ '/' ∉ last := by
  have all : ∀ segment ∈ segments path.toList, isKept segment = true ∧ '/' ∉ segment :=
    fun _ => isKept_of_mem_segments
  rw [normalise, ofSegments, String.toList_ofList]
  rcases List.eq_nil_or_concat' (segments path.toList) with nothing | ⟨front, last, split⟩
  · exact ⟨[], [], by rw [nothing]; rfl, by simp, by simp⟩
  · rw [split, List.forall_mem_append, List.forall_mem_singleton] at all
    exact ⟨front, last, by rw [split], all.1, all.2.2⟩

/-- Kept segments are told from the path that is put together from them. -/
theorem ofSegments_inj {first second : List Segment}
    (kept : ∀ segment ∈ first, isKept segment = true ∧ '/' ∉ segment)
    (kept' : ∀ segment ∈ second, isKept segment = true ∧ '/' ∉ segment)
    (same : ofSegments first = ofSegments second) : first = second := by
  have empty : ∀ {parts : List Segment},
      (∀ segment ∈ parts, isKept segment = true ∧ '/' ∉ segment) →
        Text.glue '/' parts = [] → parts = [] := by
    intro parts kept nothing
    cases parts with
    | nil => rfl
    | cons part rest =>
      have proper := (kept part List.mem_cons_self).1
      cases rest with
      | nil =>
        obtain rfl : part = [] := nothing
        cases proper
      | cons next rest =>
        obtain ⟨rfl, _⟩ := List.append_eq_nil_iff.mp nothing
        cases proper
  have glued : Text.glue '/' first = Text.glue '/' second := String.ofList_injective same
  by_cases nothing : first = []
  · rw [nothing] at glued ⊢
    exact (empty kept' glued.symm).symm
  · by_cases nothing' : second = []
    · rw [nothing'] at glued
      exact absurd (empty kept glued) nothing
    · rw [← Text.pieces_glue nothing fun part member => (kept part member).2, glued,
        Text.pieces_glue nothing' fun part member => (kept' part member).2]

/-- Two paths have one normal form when they have the same segments. -/
theorem normalise_eq_iff {first second : String} :
    normalise first = normalise second ↔ segments first.toList = segments second.toList :=
  ⟨ofSegments_inj (fun _ => isKept_of_mem_segments) (fun _ => isKept_of_mem_segments),
    congrArg ofSegments⟩

/-- A path has an empty normal form when it has no segments. -/
theorem normalise_eq_empty_iff {path : String} :
    normalise path = "" ↔ segments path.toList = [] := by
  have empty : normalise "" = "" := rfl
  rw [← empty, normalise_eq_iff]
  rfl

/-- A unit can import a target unless the target is empty or the unit itself, when both paths
are brought into normal form. -/
theorem exists_resolveImport_iff {source target : String} :
    (∃ specifier, resolveImport source target = .ok specifier) ↔
      normalise target ≠ "" ∧ normalise target ≠ normalise source := by
  rw [Ne, Ne, normalise_eq_empty_iff, normalise_eq_iff]
  unfold resolveImport
  constructor
  · rintro ⟨specifier, resolved⟩
    simp only at resolved
    split_ifs at resolved with nothing itself
    exact ⟨nothing, fun same => itself same.symm⟩
  · rintro ⟨nothing, other⟩
    exact ⟨_, by rw [if_neg nothing, if_neg fun same => other same.symm]⟩

end TypeContracts.UnitPath
