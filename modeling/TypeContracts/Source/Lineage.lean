import TypeContracts.Source.Distinct

/-!
# Lineages

The order in which a class and its ancestors are asked for what a class inherits. The
lineage of a class keeps the order of the lineages of its bases and the order of the bases
themselves; where these contradict each other there is none.
-/

set_option autoImplicit false

namespace TypeContracts.Lineage

variable {α : Type} [DecidableEq α]

/-- The first head that no list has behind its own head. -/
def next? (lists : List (List α)) : Option α :=
  lists.findSome? fun list =>
    match list with
    | head :: _ => if lists.any (fun other => head ∈ other.tail) then none else some head
    | [] => none

/-- The heads of lists, each once. -/
def heads (lists : List (List α)) : List α := Distinct.list (lists.filterMap List.head?)

/-- Lists merged into one that keeps the order of each, taking the first list that has a
head to give. When the lists contradict each other the answer is what they still had in
front. The count bounds the length of the result. -/
def merge : Nat → List (List α) → Except (List α) (List α)
  | count, lists =>
    let lists := lists.filter fun list => !list.isEmpty
    match lists, count with
    | [], _ => .ok []
    | lists, 0 => .error (heads lists)
    | lists, count + 1 =>
      match next? lists with
      | none => .error (heads lists)
      | some first =>
        (merge count (lists.map fun list => if list.head? = some first then list.tail else list)).map
          (first :: ·)

/-- The ancestors of a class with the given bases, without the class itself. -/
def ofBases (lineage : α → List α) (bases : List α) : Except (List α) (List α) :=
  let lists := bases.map lineage ++ [bases]
  merge lists.flatten.length lists

end TypeContracts.Lineage
