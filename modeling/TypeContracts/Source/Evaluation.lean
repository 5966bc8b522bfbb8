import TypeContracts.Source.Access

/-!
# Evaluation of annotations

From an annotation as it is written to what it stands for. Names are looked up in their
normal form, and every other part of an annotation is put together from what its own parts
stand for. An operand that does not count is not evaluated.
-/

set_option autoImplicit false

namespace TypeContracts

namespace World

/-- Several forms as one. What a set holds, and the keys of a map, are looked up. -/
def grouped (grouping : Grouping) (items : List Form) : Formed :=
  match grouping with
  | .set =>
    match Form.changingIn? items with
    | some sort => .error (.unhashable sort)
    | none => .ok (.group .set (Distinct.listBy Form.same items))
  | .map =>
    match Form.changingIn? (Operation.isInside.keysOf items) with
    | some sort => .error (.unhashable sort)
    | none => .ok (.group .map items)
  | grouping => .ok (.group grouping items)

mutual

/-- What an annotation stands for. -/
def evaluate (world : World) (names : Lookup) : Expression → Formed
  | .named name => names.form (Text.normal name)
  | .attribute owner name => do
    world.attributeOf (← evaluate world names owner) (Text.normal name)
  | .subscript head index => do
    let head ← evaluate world names head
    world.subscript head (← evaluate world names index)
  | .call head arguments => do
    let head ← evaluate world names head
    world.call head (← evaluateAll world names arguments)
  | .scalar value => .ok (.atom (.scalar value))
  | .ellipsis => .ok (.atom .ellipsis)
  | .enclosed inner => evaluate world names inner
  | .display grouping items => do grouped grouping (← evaluateAll world names items)
  | .turned turn operand => do Operation.turn turn (← evaluate world names operand)
  | .combined operator left right => do
    let left ← evaluate world names left
    world.combine operator left (← evaluate world names right)
  | .compared comparison left right => do
    let left ← evaluate world names left
    let right ← evaluate world names right
    return Form.ofFlag (← Operation.holds comparison left right)
  | .conjunction operands => evaluateUntil world names false operands
  | .disjunction operands => evaluateUntil world names true operands
  | .conditional condition yes no => do
    let condition ← evaluate world names condition
    if condition.isTrue then evaluate world names yes else evaluate world names no

/-- What several annotations stand for. -/
def evaluateAll (world : World) (names : Lookup) :
    List Expression → Except AnnotationFault (List Form)
  | [] => .ok []
  | expression :: rest => do
    let form ← evaluate world names expression
    return form :: (← evaluateAll world names rest)

/-- The first operand that counts as the given truth value, or the last one. -/
def evaluateUntil (world : World) (names : Lookup) (wanted : Bool) : List Expression → Formed
  | [] => .ok (Form.ofFlag !wanted)
  | [expression] => evaluate world names expression
  | expression :: rest => do
    let form ← evaluate world names expression
    if form.isTrue = wanted then return form else evaluateUntil world names wanted rest

end

end World

end TypeContracts
