/-!
# Pieces of a text

Cutting characters at a separator and putting pieces together again, with the few
searches on texts that other modules share. Joining what was cut returns the
characters (`glue_pieces`).
-/

set_option autoImplicit false

namespace TypeContracts.Text

/-! ## Cutting and joining -/

/-- The pieces between the occurrences of a separator; there is always at least one. -/
def pieces (separator : Char) : List Char → List (List Char)
  | [] => [[]]
  | c :: rest =>
    if c = separator then [] :: pieces separator rest
    else
      match pieces separator rest with
      | [] => [[c]]
      | piece :: others => (c :: piece) :: others

/-- The pieces with a separator between two of them. -/
def glue (separator : Char) : List (List Char) → List Char
  | [] => []
  | [piece] => piece
  | piece :: second :: others => piece ++ separator :: glue separator (second :: others)

theorem pieces_ne_nil (separator : Char) (cs : List Char) : pieces separator cs ≠ [] := by
  cases cs with
  | nil => simp [pieces]
  | cons c rest =>
    simp only [pieces]
    split
    · simp
    · split <;> simp

/-- Cutting loses nothing. -/
theorem glue_pieces (separator : Char) (cs : List Char) :
    glue separator (pieces separator cs) = cs := by
  induction cs with
  | nil => rfl
  | cons c rest ih =>
    simp only [pieces]
    cases h : pieces separator rest with
    | nil => exact absurd h (pieces_ne_nil separator rest)
    | cons piece others =>
      rw [h] at ih
      split
      next same => simp [glue, same, ih]
      next => cases others <;> simp_all [glue]

/-- The texts between the occurrences of a separator. -/
def cut (separator : Char) (text : String) : List String :=
  (pieces separator text.toList).map String.ofList

/-- Texts joined by a text. -/
def join (separator : String) (texts : List String) : String := separator.intercalate texts

/-! ## Searching -/

/-- The characters after a given beginning, when they start with it. -/
def after? : List Char → List Char → Option (List Char)
  | [], cs => some cs
  | _ :: _, [] => none
  | p :: ps, c :: cs => if p = c then after? ps cs else none

/-- The text after a given beginning, when it starts with it. -/
def dropStart? (beginning text : String) : Option String :=
  (after? beginning.toList text.toList).map String.ofList

/-- The text starts with the beginning. -/
def startsWith (beginning text : String) : Bool := (dropStart? beginning text).isSome

/-- The text ends with the ending. -/
def endsWith (ending text : String) : Bool :=
  (after? ending.toList.reverse text.toList.reverse).isSome

/-- The characters before the last separator and those after it. -/
def cutLast? (separator : Char) (cs : List Char) : Option (List Char × List Char) :=
  match cs.reverse.span (· ≠ separator) with
  | (_, []) => none
  | (behind, _ :: front) => some (front.reverse, behind.reverse)

end TypeContracts.Text
