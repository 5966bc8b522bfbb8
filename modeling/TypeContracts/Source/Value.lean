import TypeContracts.Host.Value
import TypeContracts.Text.Pieces
import TypeContracts.Text.Quoted

/-!
# Values and their order

The spelling of a value, the name of its sort, and how values compare. Numbers of all sorts
compare with each other, texts with texts, and tuples part by part; other values have no
order. `Order.sorted` sorts as far as the order goes: it stops where two values do not
compare, and what it has moved so far stays.
-/

set_option autoImplicit false

namespace TypeContracts

namespace EnumValue

/-! ## Spellings and sorts -/

mutual

/-- The spelling of a value. -/
def spelling : EnumValue → String
  | .text value => Text.quoted value
  | .integer value => toString value
  | .flag value => if value then "True" else "False"
  | .absent => "None"
  | .real value => value.text
  | .tuple [part] => "(" ++ part.spelling ++ ",)"
  | .tuple parts => "(" ++ Text.join ", " (spellings parts) ++ ")"
  | .symbol _ spelling => spelling

/-- The spellings of several values. -/
def spellings : List EnumValue → List String
  | [] => []
  | value :: rest => value.spelling :: spellings rest

end

/-- The name of the sort of a value. -/
def sort : EnumValue → String
  | .text _ => "str"
  | .integer _ => "int"
  | .flag _ => "bool"
  | .absent => "NoneType"
  | .real _ => "float"
  | .tuple _ => "tuple"
  | .symbol sort _ => sort

/-- What a value is shown as where texts stand for themselves. -/
def shown : EnumValue → String
  | .text value => value
  | value => value.spelling

/-- A value counts as true unless it is empty, zero or missing. -/
def isTrue : EnumValue → Bool
  | .text value => value != ""
  | .integer value => value != 0
  | .flag value => value
  | .absent => false
  | .real value => !value.isInt 0
  | .tuple parts => !parts.isEmpty
  | .symbol .. => true

/-! ## Numbers -/

/-- The whole number that a value is. -/
def whole? : EnumValue → Option Int
  | .integer value => some value
  | .flag value => some (flagNumber value)
  | _ => none

/-- The double-precision number nearest to a whole number. -/
def realOf (whole : Int) : Binary64 :=
  let size := Binary64.ofNat whole.natAbs
  if whole < 0 then size.negated else size

/-- The sum of two numbers. -/
def plus? (a b : EnumValue) : Option EnumValue :=
  match a.whole?, b.whole?, a, b with
  | some m, some n, _, _ => some (.integer (m + n))
  | some m, none, _, .real y => some (.real ((realOf m).plus y))
  | none, some n, .real x, _ => some (.real (x.plus (realOf n)))
  | none, none, .real x, .real y => some (.real (x.plus y))
  | _, _, _, _ => none

/-- A number that is finite, as a fraction. -/
def fraction? : EnumValue → Option (Int × Nat)
  | .real value => value.fraction?
  | value => value.whole?.map fun n => (n, 1)

/-- The first of two double-precision numbers is less; nothing compares with an undefined
number. -/
def realBelow (x y : Binary64) : Bool :=
  match x.fraction?, y.fraction? with
  | some (m, d), some (n, e) => m * e < n * d
  | some _, none => y = .infinite false
  | none, some _ => x = .infinite true
  | none, none => x = .infinite true && y = .infinite false

/-- The first of two numbers is less. -/
def numberBelow? (a b : EnumValue) : Option Bool :=
  match a, b with
  | .real x, .real y => some (realBelow x y)
  | .real x, b =>
    b.whole?.map fun n =>
      match x.fraction? with
      | some (m, d) => m < n * d
      | none => x = .infinite true
  | a, .real y =>
    a.whole?.map fun m =>
      match y.fraction? with
      | some (n, e) => m * e < n
      | none => y = .infinite false
  | a, b => return (← a.whole?) < (← b.whole?)

/-! ## Order -/

mutual

/-- The first value is less than the second, or the names of the sorts that do not
compare. -/
def isBelow : EnumValue → EnumValue → Except (String × String) Bool
  | .text a, .text b => .ok (a < b)
  | .tuple as, .tuple bs => isBelowAll as bs
  | a, b =>
    match a.numberBelow? b with
    | some answer => .ok answer
    | none => .error (a.sort, b.sort)

/-- A list is less by its first part that differs, or as a beginning of the other. -/
def isBelowAll : List EnumValue → List EnumValue → Except (String × String) Bool
  | [], [] => .ok false
  | [], _ :: _ => .ok true
  | _ :: _, [] => .ok false
  | a :: as, b :: bs => if a.same b then isBelowAll as bs else isBelow a b

end

end EnumValue

namespace Order

/-- The length of the beginning that already stands in order: each value is not less than
the one before, or, for a falling beginning, less. -/
def runLength (falling : Bool) : List EnumValue → Except (String × String) Nat
  | a :: b :: rest => do
    if (← b.isBelow a) = falling then return (← runLength falling (b :: rest)) + 1 else return 1
  | rest => .ok rest.length

/-- The place of a value among sorted ones, behind those that are not greater. The place is
found by halving the stretch of places; the count bounds the number of halvings. -/
def place (sorted : Array EnumValue) (value : EnumValue) :
    Nat → Nat → Nat → Except (String × String) Nat
  | 0, low, _ => .ok low
  | count + 1, low, high =>
    if high ≤ low then .ok low
    else do
      let middle := low + (high - low) / 2
      if ← value.isBelow (sorted[middle]?.getD .absent) then place sorted value count low middle
      else place sorted value count (middle + 1) high

/-- Values with those behind a sorted beginning put in their places one by one. The answer
tells whether all of them compare. -/
def insertAll (sorted : Array EnumValue) : List EnumValue → Bool × List EnumValue
  | [] => (true, sorted.toList)
  | value :: rest =>
    match place sorted value sorted.size 0 sorted.size with
    | .error _ => (false, sorted.toList ++ value :: rest)
    | .ok index =>
      let front := sorted.toList.take index
      insertAll (front ++ value :: sorted.toList.drop index).toArray rest

/-- Values in order, the earlier of two that are the same first, and whether all of them
compare. Where they do not, the values are left as they were moved so far. -/
def sorted (values : List EnumValue) : Bool × List EnumValue :=
  match values with
  | a :: b :: _ =>
    let run : Except (String × String) (Bool × Nat) := do
      let falling ← b.isBelow a
      return (falling, ← runLength falling values)
    match run with
    | .error _ => (false, values)
    | .ok (falling, length) =>
      let front := values.take length
      insertAll (if falling then front.reverse else front).toArray (values.drop length)
  | values => (true, values)

/-- The first of the greatest values. -/
def greatest (first : EnumValue) (rest : List EnumValue) :
    Except (String × String) EnumValue :=
  rest.foldlM (fun greatest value => do
    let exceeds ← (greatest.isBelow value).mapError fun (a, b) => (b, a)
    return if exceeds then value else greatest) first

/-- Sorting keeps all values. -/
theorem length_insertAll (sorted : Array EnumValue) (values : List EnumValue) :
    (insertAll sorted values).2.length = sorted.size + values.length := by
  induction values generalizing sorted with
  | nil => simp [insertAll]
  | cons value rest ih =>
    simp only [insertAll]
    split
    · simp
    · rw [ih]
      simp only [List.size_toArray, List.length_append, List.length_take, List.length_cons,
        List.length_drop, Array.length_toList]
      omega

end Order

end TypeContracts
