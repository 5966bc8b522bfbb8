import TypeContracts.Config.Moment
import TypeContracts.Number.Binary64
import TypeContracts.Text.Quoted

/-!
# Configuration data

What a configuration document says, before its keys are given a meaning: scalars, lists
and mappings in document order. `shown` is how a value is shown on its own in messages,
`literal` how it is shown inside a list or a mapping. A whole number is shown only up to
a number of digits (`isShowable`).
-/

set_option autoImplicit false

namespace TypeContracts

/-- A value of a configuration document. -/
inductive Data where
  | null
  | flag (value : Bool)
  | integer (value : Int)
  | real (value : Binary64)
  | day (value : Day)
  | moment (value : Moment)
  | text (value : String)
  | list (items : List Data)
  | map (entries : List (Data × Data))
deriving Repr, Inhabited

namespace Data

/-! ## Showing -/

mutual

/-- The spelling of a value inside another. -/
def literal : Data → String
  | .null => "None"
  | .flag value => if value then "True" else "False"
  | .integer value => toString value
  | .real value => value.text
  | .day value => value.literal
  | .moment value => value.literal
  | .text value => Text.quoted value
  | .list items => "[" ++ Text.join ", " (literals items) ++ "]"
  | .map entries => "\x7b" ++ Text.join ", " (entryLiterals entries) ++ "\x7d"

/-- The spellings of several values. -/
def literals : List Data → List String
  | [] => []
  | item :: rest => literal item :: literals rest

/-- The spellings of the entries of a mapping. -/
def entryLiterals : List (Data × Data) → List String
  | [] => []
  | (key, value) :: rest => (literal key ++ ": " ++ literal value) :: entryLiterals rest

end

/-- The text of a value on its own. -/
def shown : Data → String
  | .text value => value
  | .day value => value.text
  | .moment value => value.text
  | value => value.literal

/-- How many digits a whole number may have that is read or shown in base ten. -/
def digitLimit : Nat := 4300

/-- The whole number is short enough to be shown. -/
def isShort (value : Int) : Bool :=
  value.natAbs.log2 < 3 * digitLimit || value.natAbs < Nat.pow 10 digitLimit

mutual

/-- No whole number in the value is too long to be shown. -/
def isShowable : Data → Bool
  | .integer value => isShort value
  | .list items => areShowable items
  | .map entries => entriesShowable entries
  | _ => true

/-- No whole number in the values is too long to be shown. -/
def areShowable : List Data → Bool
  | [] => true
  | item :: rest => isShowable item && areShowable rest

/-- No whole number in the entries is too long to be shown. -/
def entriesShowable : List (Data × Data) → Bool
  | [] => true
  | (key, value) :: rest => isShowable key && isShowable value && entriesShowable rest

end

/-! ## Keys -/

/-- Two scalars are one key. Numbers and truth values compare by value. -/
def sameKey : Data → Data → Bool
  | .null, .null => true
  | .text a, .text b => a == b
  | .day a, .day b => a == b
  | .moment a, .moment b => a.same b
  | .real a, .real b => a.same b
  | .real a, b => (whole? b).any a.isInt
  | a, .real b => (whole? a).any b.isInt
  | a, b =>
    match whole? a, whole? b with
    | some m, some n => m == n
    | _, _ => false
where
  /-- The whole number that a scalar counts as. -/
  whole? : Data → Option Int
    | .integer value => some value
    | .flag value => some (if value then 1 else 0)
    | _ => none

/-- The value is a scalar, and so can be a key. -/
def isScalar : Data → Bool
  | .list _ => false
  | .map _ => false
  | _ => true

/-- Entries with one more. A key that is there keeps its place and takes the new value. -/
def insert (entries : List (Data × Data)) (key value : Data) : List (Data × Data) :=
  if entries.any fun entry => entry.1.sameKey key then
    entries.map fun entry => if entry.1.sameKey key then (entry.1, value) else entry
  else entries ++ [(key, value)]

/-- The value under a text key; null where there is none. -/
def field (entries : List (Data × Data)) (name : String) : Data :=
  match entries.find? fun entry => entry.1.sameKey (.text name) with
  | some (_, value) => value
  | none => .null

/-- The entries of a mapping; every other value has none. -/
def entries : Data → List (Data × Data)
  | .map entries => entries
  | _ => []

/-- The value says nothing: null, false, zero, or an empty text, list or mapping. -/
def isBlank : Data → Bool
  | .null => true
  | .flag value => !value
  | .integer value => value == 0
  | .real value => value.isInt 0
  | .day _ => false
  | .moment _ => false
  | .text value => value.isEmpty
  | .list items => items.isEmpty
  | .map entries => entries.isEmpty

end Data

end TypeContracts
