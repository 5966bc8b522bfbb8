import TypeContracts.Number.Binary64

/-!
# Values of enumeration members

What a member of a host enumeration can hold, and when two such values are the same.
Numbers of different sorts compare by value, and a truth value counts as zero or one. A
value of any other sort is known by the name of its sort and by its spelling.
-/

set_option autoImplicit false

namespace TypeContracts

/-- The value of a member of a host enumeration. -/
inductive EnumValue where
  | text (value : String)
  | integer (value : Int)
  | flag (value : Bool)
  | absent
  | real (value : Binary64)
  | tuple (parts : List EnumValue)
  | symbol (sort spelling : String)
deriving Repr, Inhabited

namespace EnumValue

/-- The whole number that a truth value counts as. -/
def flagNumber (value : Bool) : Int := if value then 1 else 0

mutual

/-- The values are the same: texts by their characters, numbers by value, tuples part
by part. -/
def same : EnumValue → EnumValue → Bool
  | .text a, .text b => a == b
  | .absent, .absent => true
  | .tuple as, .tuple bs => sameAll as bs
  | .integer a, .integer b => a == b
  | .integer a, .flag b => a == flagNumber b
  | .integer a, .real b => b.isInt a
  | .flag a, .integer b => flagNumber a == b
  | .flag a, .flag b => a == b
  | .flag a, .real b => b.isInt (flagNumber a)
  | .real a, .integer b => a.isInt b
  | .real a, .flag b => a.isInt (flagNumber b)
  | .real a, .real b => a.same b
  | .symbol s a, .symbol t b => s == t && a == b
  | _, _ => false

/-- The lists have the same values in the same order. -/
def sameAll : List EnumValue → List EnumValue → Bool
  | [], [] => true
  | a :: as, b :: bs => same a b && sameAll as bs
  | _, _ => false

end

end EnumValue

end TypeContracts
