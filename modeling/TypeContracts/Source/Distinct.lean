/-!
# Lists of distinct elements

Putting elements into a list in which each counts once, at its first place. What counts as
the same element is a parameter, because values of different kinds can be equal.
-/

set_option autoImplicit false

namespace TypeContracts.Distinct

/-- A list with one more element at its end, unless the same one is there. -/
def addBy {α : Type} (same : α → α → Bool) (known : List α) (one : α) : List α :=
  if known.any fun other => same other one then known else known ++ [one]

/-- The elements of a list, each at its first place only. -/
def listBy {α : Type} (same : α → α → Bool) (list : List α) : List α :=
  list.foldl (addBy same) []

/-- A list with one more element at its end, unless it is there. -/
def add {α : Type} [DecidableEq α] (known : List α) (one : α) : List α :=
  addBy (fun a b => decide (a = b)) known one

/-- The elements of a list, each once. -/
def list {α : Type} [DecidableEq α] (elements : List α) : List α := elements.foldl add []

end TypeContracts.Distinct
