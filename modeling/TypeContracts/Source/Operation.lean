import TypeContracts.Source.Formation

/-!
# Operations on forms

What the operators of an annotation make of their operands. Most annotations only put bars
between types, but a text can hold any expression, so numbers are computed with, texts and
lists are joined, and values are compared. Operands that an operator does not take are told
by the names of their sorts.
-/

set_option autoImplicit false

namespace TypeContracts

namespace Form

/-! ## Forms and values -/

/-- The form of a value. -/
def ofValue : EnumValue → Form
  | .text value => .atom (.scalar (.text value))
  | .integer value => .atom (.scalar (.integer value))
  | .flag value => .atom (.scalar (.flag value))
  | .real value => .atom (.scalar (.real value))
  | .absent => .atom .none
  | .tuple parts => .group .tuple (ofValues parts)
  | .symbol sort spelling => .atom (.object sort spelling)
where
  /-- The forms of several values. -/
  ofValues : List EnumValue → List Form
    | [] => []
    | value :: rest => ofValue value :: ofValues rest

/-- The form of a truth value. -/
def ofFlag (value : Bool) : Form := .atom (.scalar (.flag value))

mutual

/-- The value that a form stands for in operations; what is no value is a symbol. -/
def value : Form → EnumValue
  | .atom (.scalar value) => value.value
  | .atom .none => .absent
  | .atom (.member m) => if m.isValue then m.value else .symbol m.owner.name m.spelling
  | .group .tuple items => .tuple (values items)
  | .atom a => .symbol a.sort a.display
  | form => .symbol form.sort form.text

/-- The values of several forms. -/
def values : List Form → List EnumValue
  | [] => []
  | form :: rest => form.value :: values rest

end

/-- A form counts as true unless it is an empty, zero or missing value. -/
def isTrue : Form → Bool
  | .atom (.member m) => !(m.isValue || m.owner.isFlags) || m.value.isTrue
  | .atom a => (Form.atom a).value.isTrue
  | .group _ items => !items.isEmpty
  | _ => true

end Form

namespace Operation

/-- The operands are not taken by the operator. -/
def refused (operator : Operator) (left right : Form) : Formed :=
  .error (.noOperation (if operator = .power then "** or pow()" else operator.text)
    left.sort right.sort)

/-! ## Whole numbers -/

/-- A whole number as a form. -/
def whole (value : Int) : Form := .atom (.scalar (.integer value))

/-- A double-precision number as a form. -/
def real (value : Binary64) : Form := .atom (.scalar (.real value))

/-- Two whole numbers joined bit by bit. Numbers below zero go on with ones forever, so
that a number below zero is the complement of a natural number. -/
def bitwise (join : Bool → Bool → Bool) (m n : Int) : Int :=
  let natural (k : Int) : Nat := if k < 0 then (-k - 1).toNat else k.toNat
  let isFull := join (m < 0) (n < 0)
  let bit (i : Nat) : Bool :=
    join ((natural m).testBit i != (m < 0)) ((natural n).testBit i != (n < 0)) != isFull
  let count := max (natural m).log2 (natural n).log2 + 1
  let total : Nat :=
    (List.range count).foldl (fun total i => if bit i then total + Nat.pow 2 i else total) 0
  if isFull then -(total : Int) - 1 else total

/-- The greatest number of binary digits that an operator makes. -/
def sizeLimit : Int := 1000000

/-- The result of an operator on whole numbers, where it is one. -/
def onWhole? (operator : Operator) (m n : Int) : Option Formed :=
  match operator with
  | .either => some (.ok (whole (bitwise or m n)))
  | .both => some (.ok (whole (bitwise and m n)))
  | .exclusive => some (.ok (whole (bitwise xor m n)))
  | .shiftLeft =>
    some (if n < 0 then .error (.arithmetic .negativeShift)
      else if sizeLimit < n then .error (.arithmetic .tooGreat)
      else .ok (whole (m * Nat.pow 2 n.toNat)))
  | .shiftRight =>
    some (if n < 0 then .error (.arithmetic .negativeShift)
      else .ok (whole (m.fdiv (Nat.pow 2 n.toNat : Nat))))
  | .add => some (.ok (whole (m + n)))
  | .subtract => some (.ok (whole (m - n)))
  | .multiply => some (.ok (whole (m * n)))
  | .divideDown =>
    some (if n = 0 then .error (.arithmetic (.zeroDivisor operator true))
      else .ok (whole (m.fdiv n)))
  | .remainder =>
    some (if n = 0 then .error (.arithmetic (.zeroDivisor operator true))
      else .ok (whole (m.fmod n)))
  | .divide =>
    some (if n = 0 then .error (.arithmetic (.zeroDivisor operator true))
      else .ok (real (if m = 0 then Binary64.zero
        else Binary64.ofRatio (if n < 0 then -m else m) n.natAbs)))
  | .power =>
    if n < 0 then none
    else if sizeLimit < (m.natAbs.log2 + 1) * n then some (.error (.arithmetic .tooGreat))
    else some (.ok (whole (Int.pow m n.toNat)))
  | .product => none

/-- Two truth values joined bit by bit. -/
def onFlags? (operator : Operator) (a b : Bool) : Option Form :=
  match operator with
  | .either => some (Form.ofFlag (a || b))
  | .both => some (Form.ofFlag (a && b))
  | .exclusive => some (Form.ofFlag (a != b))
  | _ => none

/-! ## Double-precision numbers -/

/-- The quotient of two numbers that is rounded down, and what is left over. -/
def quotient (x y : Binary64) : Binary64 × Binary64 :=
  match x.fraction?, y.fraction? with
  | some (m, d), some (n, e) =>
    let down := (m * e * (if n < 0 then -1 else 1)).fdiv (d * n.natAbs)
    let left := m * e - down * (n * d)
    (EnumValue.realOf down,
      if left = 0 then Binary64.zero else Binary64.ofRatio left (d * e))
  | _, _ => (.nan, .nan)

/-- The greatest exponent whose power is taken. -/
def exponentLimit : Nat := 5000

/-- A number that is not beyond all numbers. -/
def bounded : Binary64 → Formed
  | .infinite _ => .error (.arithmetic .beyondReals)
  | result => .ok (real result)

/-- A fraction raised to a power. -/
def raised (m : Int) (d times : Nat) : Formed :=
  bounded (Binary64.ofRatio (Int.pow m times) (Nat.pow d times))

/-- A fraction raised to the power that a number says, or to its inverse. -/
def raisedBy (n m : Int) (d times : Nat) : Formed :=
  if 0 ≤ n then if m = 0 && 0 < n then .ok (real Binary64.zero) else raised m d times
  else if m = 0 then .error (.arithmetic .zeroPower)
  else raised (if m < 0 then -d else d) m.natAbs times

/-- A number raised to a power that is whole. -/
def power? (x y : Binary64) : Option Formed := do
  let (n, e) ← y.fraction?
  let (m, d) ← x.fraction?
  if n % e ≠ 0 || exponentLimit < n.natAbs / e then none
  else some (raisedBy n m d (n.natAbs / e))

/-- The result of an operator on double-precision numbers, where it is one. -/
def onReal? (operator : Operator) (x y : Binary64) : Option Formed :=
  let divided (result : Binary64) : Formed :=
    if y.isInt 0 then .error (.arithmetic (.zeroDivisor operator false)) else .ok (real result)
  match operator with
  | .add => some (.ok (real (x.plus y)))
  | .subtract => some (.ok (real (x.plus y.negated)))
  | .multiply => some (.ok (real (x.times y)))
  | .divide =>
    some <| divided <|
      match x.fraction?, y.fraction? with
      | some (m, d), some (n, e) =>
        if m = 0 then Binary64.zero
        else Binary64.ofRatio (m * e * (if n < 0 then -1 else 1)) (d * n.natAbs)
      | _, _ => .nan
  | .divideDown => some (divided (quotient x y).1)
  | .remainder => some (divided (quotient x y).2)
  | .power => power? x y
  | _ => none

/-- The double-precision number that a value counts as among such numbers. -/
def realOf? : EnumValue → Option Binary64
  | .real value => some value
  | value => value.whole?.map EnumValue.realOf

/-! ## Sequences -/

/-- Parts one after another as often as a number says. -/
def repeated {α : Type} (parts : List α) (count : Int) : List α :=
  (List.replicate count.toNat parts).flatten

/-- A sequence joined with another operand. -/
def joined (left right : Form) : Formed :=
  match left, right with
  | .group .list items, .group .list others => .ok (.group .list (items ++ others))
  | .group .tuple items, .group .tuple others => .ok (.group .tuple (items ++ others))
  | left, right =>
    match left.value, right.value with
    | .text a, .text b => .ok (Form.ofValue (.text (a ++ b)))
    | _, _ =>
      if ["str", "list", "tuple"].contains left.value.sort then
        .error (.noJoint left.value.sort right.sort)
      else refused .add left right

/-- A sequence taken as often as a number says. -/
def multiplied (left right : Form) : Formed :=
  let taken (items : Form) (count : Form) : Option Formed :=
    let isSequence := ["str", "list", "tuple"].contains items.value.sort
    match items, items.value, count.value.whole? with
    | .group grouping items, _, some n =>
      if isSequence then some (.ok (.group grouping (repeated items n))) else none
    | _, .text text, some n =>
      some (.ok (Form.ofValue (.text (String.ofList (repeated text.toList n)))))
    | _, _, none =>
      if isSequence then some (.error (.noCount count.sort)) else none
    | _, _, _ => none
  ((taken left right) <|> (taken right left)).getD (refused .multiply left right)

/-! ## Operators -/

/-- Two operands with an operator between them. -/
def combine (operator : Operator) (left right : Form) : Formed :=
  match left.value, right.value with
  | .flag a, .flag b =>
    match onFlags? operator a b with
    | some form => .ok form
    | none => general (EnumValue.flag a).whole? (EnumValue.flag b).whole?
  | a, b => general a.whole? b.whole?
where
  /-- The operator on whole numbers, if both operands are such, or on other operands. -/
  general (m? n? : Option Int) : Formed :=
    match m?, n?, realOf? left.value, realOf? right.value with
    | some m, some n, some x, some y =>
      ((onWhole? operator m n) <|> (onReal? operator x y)).getD (refused operator left right)
    | _, _, some x, some y => (onReal? operator x y).getD (refused operator left right)
    | _, _, _, _ =>
      match operator with
      | .either => Form.alternative left right
      | .add => joined left right
      | .multiply => multiplied left right
      | .remainder =>
        match left.value with
        | .text _ => .error .manyInserted
        | _ => refused operator left right
      | operator => refused operator left right

/-- An operand with an operator in front of it. -/
def turn (turn : Turn) (operand : Form) : Formed :=
  match turn, operand.value, operand.value.whole? with
  | .deny, _, _ => .ok (Form.ofFlag !operand.isTrue)
  | .negate, _, some n => .ok (whole (-n))
  | .keep, _, some n => .ok (whole n)
  | .invert, _, some n => .ok (whole (-n - 1))
  | .negate, .real x, _ => .ok (real x.negated)
  | .keep, .real x, _ => .ok (real x)
  | turn, _, _ => .error (.noTurn turn.text operand.sort)

/-! ## Comparisons -/

/-- Two forms are equal: values by what they hold, all else by being the same. -/
def isEqual (left right : Form) : Bool := left.same right || left.value.same right.value

/-- A form is among the parts of another. -/
def isInside (part whole : Form) : Except AnnotationFault Bool :=
  match whole, part.value, whole.value with
  | .group .map items, _, _ => .ok ((keysOf items).any (isEqual part))
  | .group _ items, _, _ => .ok (items.any (isEqual part))
  | _, .text a, .text b => .ok (a.isEmpty || (b.splitOn a).length > 1)
  | _, _, .text _ => .error (.noPartOfText part.sort)
  | whole, _, _ => .error (.noContainer whole.sort)
where
  /-- The keys among keys and values that alternate. -/
  keysOf : List Form → List Form
    | key :: _ :: rest => key :: keysOf rest
    | rest => rest

/-- The first operand is less than the second; a failure names the operator as it is
written, with the operands in their places. -/
def isBelow (comparison : Comparison) (swapped : Bool) (left right : Form) :
    Except AnnotationFault Bool :=
  (left.value.isBelow right.value).mapError fun (a, b) =>
    if swapped then .noOrder comparison.text b a else .noOrder comparison.text a b

/-- Whether a comparison holds. -/
def holds (comparison : Comparison) (left right : Form) : Except AnnotationFault Bool :=
  match comparison with
  | .equal => .ok (isEqual left right)
  | .unequal => .ok !(isEqual left right)
  | .same => .ok (left.sameSorted right)
  | .other => .ok !(left.sameSorted right)
  | .inside => isInside left right
  | .outside => (isInside left right).map not
  | .below => isBelow comparison false left right
  | .above => isBelow comparison true right left
  | .atMost => do
    return isEqual left right || (← isBelow comparison false left right)
  | .atLeast => do
    return isEqual left right || (← isBelow comparison true right left)

/-! ## Indices -/

/-- The part of a sequence at an index; one below zero counts from behind. -/
def part? {α : Type} (parts : List α) (index : Int) : Option α :=
  if 0 ≤ index then parts[index.toNat]?
  else if parts.length < index.natAbs then none
  else parts[parts.length - index.natAbs]?

/-- The part of a value with an index in brackets. -/
def index (head index : Form) : Formed :=
  match head, head.value, index.value.whole? with
  | .group .map items, _, _ =>
    match index.changing? with
    | some sort => .error (.unhashable sort)
    | none =>
      match entry? items with
      | some form => .ok form
      | none =>
        match index with
        | .atom (.scalar (.text text)) => .error (.noEntry text)
        | index => .error (.noKey index.display)
  | .group .set _, _, _ => .error (.notSubscriptable "'set' object")
  | .group grouping items, _, some n =>
    match part? items n with
    | some form => .ok form
    | none => .error (.outOfRange grouping.sort)
  | .group grouping _, _, none => .error (.badIndex grouping.sort index.sort)
  | _, .text text, some n =>
    match part? text.toList n with
    | some c => .ok (Form.ofValue (.text c.toString))
    | none => .error (.outOfRange "string")
  | _, .text _, none => .error (.badIndex "str" index.sort)
  | head, _, _ => .error (.notSubscriptable ("'" ++ head.sort ++ "' object"))
where
  /-- The value of the entry with a key. -/
  entry? : List Form → Option Form
    | key :: value :: rest => if isEqual key index then some value else entry? rest
    | _ => none

end Operation

end TypeContracts
