import Mathlib.Data.List.Basic
import TypeContracts.Text.Pieces

/-!
# Cutting and joining

Pieces that hold no separator come back when they are put together and cut again
(`pieces_glue`), so that a text has the pieces that it was put together from. Together with
`glue_pieces` this makes texts and their cuts correspond. Leaving pieces out takes characters away
(`glue_filter_sublist`).
-/

set_option autoImplicit false

namespace TypeContracts.Text

variable {separator : Char}

/-- A piece holds no separator. -/
theorem notMem_of_mem_pieces {cs piece : List Char} (member : piece ∈ pieces separator cs) :
    separator ∉ piece := by
  induction cs generalizing piece with
  | nil => simp_all [pieces]
  | cons c rest ih =>
    rw [pieces] at member
    split_ifs at member with here
    · rcases List.mem_cons.mp member with rfl | later
      · simp
      · exact ih later
    · cases split : pieces separator rest with
      | nil => exact absurd split (pieces_ne_nil separator rest)
      | cons first others =>
        rw [split] at member ih
        rcases List.mem_cons.mp member with rfl | later
        · rw [List.mem_cons, not_or]
          exact ⟨Ne.symm here, ih List.mem_cons_self⟩
        · exact ih (List.mem_cons_of_mem _ later)

/-- A piece holds only what the characters hold. -/
theorem mem_of_mem_pieces {cs piece : List Char} (member : piece ∈ pieces separator cs) {c : Char}
    (inside : c ∈ piece) : c ∈ cs := by
  rw [← glue_pieces separator cs]
  generalize pieces separator cs = parts at member
  induction parts using glue.induct with
  | case1 => cases member
  | case2 part =>
    rw [List.mem_singleton] at member
    rwa [glue, ← member]
  | case3 part second others ih =>
    rw [glue, List.mem_append, List.mem_cons]
    rcases List.mem_cons.mp member with rfl | later
    · exact .inl inside
    · exact .inr (.inr (ih later))

/-- Pieces without a character that is not the separator are put together without it. -/
theorem notMem_glue {c : Char} (other : c ≠ separator) {parts : List (List Char)}
    (plain : ∀ part ∈ parts, c ∉ part) : c ∉ glue separator parts := by
  induction parts using glue.induct with
  | case1 => simp [glue]
  | case2 part => exact plain part List.mem_cons_self
  | case3 part second others ih =>
    rw [List.forall_mem_cons] at plain
    rw [glue, List.mem_append, List.mem_cons, not_or, not_or]
    exact ⟨plain.1, other, ih plain.2⟩

theorem mem_of_mem_glue {c : Char} {parts : List (List Char)}
    (member : c ∈ glue separator parts) : c = separator ∨ ∃ part ∈ parts, c ∈ part := by
  by_contra none
  rw [not_or, not_exists] at none
  exact notMem_glue none.1 (fun part inside here => none.2 part ⟨inside, here⟩) member

/-- Characters without a separator are one piece. -/
theorem pieces_of_notMem {cs : List Char} (plain : separator ∉ cs) :
    pieces separator cs = [cs] := by
  induction cs with
  | nil => rfl
  | cons c rest ih =>
    rw [List.mem_cons, not_or] at plain
    rw [pieces, if_neg (Ne.symm plain.1), ih plain.2]

/-- Characters up to the first separator are the first piece. -/
theorem pieces_append_cons {front : List Char} (plain : separator ∉ front)
    (behind : List Char) :
    pieces separator (front ++ separator :: behind) = front :: pieces separator behind := by
  induction front with
  | nil => rw [List.nil_append, pieces, if_pos rfl]
  | cons c rest ih =>
    rw [List.mem_cons, not_or] at plain
    rw [List.cons_append, pieces, if_neg (Ne.symm plain.1), ih plain.2]

/-- Putting pieces without a separator together and cutting gives them back. -/
theorem pieces_glue {parts : List (List Char)} (proper : parts ≠ [])
    (plain : ∀ part ∈ parts, separator ∉ part) :
    pieces separator (glue separator parts) = parts := by
  induction parts using glue.induct with
  | case1 => exact absurd rfl proper
  | case2 part => exact pieces_of_notMem (plain part List.mem_cons_self)
  | case3 part second others ih =>
    rw [List.forall_mem_cons] at plain
    rw [glue, pieces_append_cons plain.1, ih (by simp) plain.2]

/-- Pieces that are put together in two parts have a separator between the parts. -/
theorem glue_append {front behind : List (List Char)} (several : front ≠ [])
    (several' : behind ≠ []) :
    glue separator (front ++ behind) =
      glue separator front ++ separator :: glue separator behind := by
  induction front using glue.induct with
  | case1 => exact absurd rfl several
  | case2 piece =>
    obtain ⟨next, others, rfl⟩ := List.exists_cons_of_ne_nil several'
    rfl
  | case3 piece next others ih =>
    have later := ih (by simp)
    simp only [List.cons_append, glue] at later ⊢
    rw [later, List.append_assoc, List.cons_append]

/-- Characters with a separator inside are cut there. -/
theorem pieces_append (separator : Char) (front behind : List Char) :
    pieces separator (front ++ separator :: behind) =
      pieces separator front ++ pieces separator behind := by
  have several := pieces_ne_nil separator front
  have whole : glue separator (pieces separator front ++ pieces separator behind) =
      front ++ separator :: behind := by
    rw [glue_append several (pieces_ne_nil separator behind), glue_pieces, glue_pieces]
  rw [← whole, pieces_glue (by simp [several])]
  rw [List.forall_mem_append]
  exact ⟨fun _ => notMem_of_mem_pieces, fun _ => notMem_of_mem_pieces⟩

/-- What follows pieces that are put together belongs to the last one. -/
theorem glue_concat_append (front : List (List Char)) (last behind : List Char) :
    glue separator (front ++ [last ++ behind]) = glue separator (front ++ [last]) ++ behind := by
  by_cases nothing : front = []
  · rw [nothing]
    rfl
  · rw [glue_append nothing (by simp), glue_append nothing (by simp)]
    simp [glue]

/-- A text is what its cut is joined to, so that a cut tells its text. -/
theorem cut_injective {first second : String}
    (same : cut separator first = cut separator second) : first = second := by
  have pieces := List.map_injective_iff.mpr (fun _ _ => String.ofList_injective) same
  rw [← String.toList_inj, ← glue_pieces separator first.toList, pieces, glue_pieces]

/-! ## Dropped pieces -/

theorem glue_cons_sublist (separator : Char) (piece : List Char) (rest : List (List Char)) :
    (glue separator (piece :: rest)).Sublist (piece ++ separator :: glue separator rest) := by
  cases rest with
  | nil => exact List.sublist_append_left _ _
  | cons next others => exact List.Sublist.refl _

/-- Pieces that are dropped take their characters with them, and a separator. -/
theorem glue_filter_sublist (separator : Char) (keep : List Char → Bool)
    (parts : List (List Char)) :
    (glue separator (parts.filter keep)).Sublist (glue separator parts) := by
  induction parts using glue.induct with
  | case1 => exact List.Sublist.refl _
  | case2 piece =>
    cases kept : keep piece <;> simp [kept, glue]
  | case3 piece next others ih =>
    rw [glue]
    cases kept : keep piece with
    | true =>
      rw [List.filter_cons_of_pos kept]
      exact (glue_cons_sublist separator piece _).trans ((ih.cons_cons separator).append_left piece)
    | false =>
      rw [List.filter_cons_of_neg (by simp [kept])]
      exact (ih.trans (List.sublist_cons_self _ _)).trans (List.sublist_append_right _ _)

end TypeContracts.Text
