import TypeContracts.Text.Blank

/-!
# Decimal digits

The characters that are digits of base ten in any script, with their values. Digits of a
script stand side by side from zero on, so that the zeros tell them all. Every digit of
core is one (`value?_of_isDigit`). A number may be written with any of them, and with any
white space around it; `plainNumber` brings it to ASCII.
-/

set_option autoImplicit false

namespace TypeContracts.Digit

/-- The codes of the zeros of all scripts. -/
def zeros : List Nat :=
  [0x0030, 0x0660, 0x06F0, 0x07C0, 0x0966, 0x09E6, 0x0A66, 0x0AE6, 0x0B66, 0x0BE6, 0x0C66,
   0x0CE6, 0x0D66, 0x0DE6, 0x0E50, 0x0ED0, 0x0F20, 0x1040, 0x1090, 0x17E0, 0x1810, 0x1946,
   0x19D0, 0x1A80, 0x1A90, 0x1B50, 0x1BB0, 0x1C40, 0x1C50, 0xA620, 0xA8D0, 0xA900, 0xA9D0,
   0xA9F0, 0xAA50, 0xABF0, 0xFF10, 0x104A0, 0x10D30, 0x11066, 0x110F0, 0x11136, 0x111D0,
   0x112F0, 0x11450, 0x114D0, 0x11650, 0x116C0, 0x11730, 0x118E0, 0x11950, 0x11C50, 0x11D50,
   0x11DA0, 0x16A60, 0x16AC0, 0x16B50, 0x1D7CE, 0x1D7D8, 0x1D7E2, 0x1D7EC, 0x1D7F6, 0x1E140,
   0x1E2F0, 0x1E950, 0x1FBF0]

/-- The value of a digit. -/
def value? (c : Char) : Option Nat :=
  (zeros.find? fun first => first ≤ c.toNat && c.toNat < first + 10).map fun first => c.toNat - first

/-- The character is a decimal digit. -/
def isDecimal (c : Char) : Bool := (value? c).isSome

/-- A digit of core has the value that core gives it. -/
theorem value?_of_isDigit (c : Char) (h : c.isDigit = true) :
    value? c = some (c.toNat - '0'.toNat) := by
  have low : 48 ≤ c.toNat := by
    simp only [Char.isDigit, Bool.and_eq_true, decide_eq_true_eq] at h
    exact h.1
  have high : c.toNat < 58 := by
    simp only [Char.isDigit, Bool.and_eq_true, decide_eq_true_eq] at h
    exact Nat.lt_succ_of_le h.2
  simp [value?, zeros, low, high]

/-- Characters of a number in ASCII: other digits and white space become those of ASCII,
and anything else becomes what no number holds. -/
def plainNumber (cs : List Char) : List Char :=
  cs.map fun c =>
    if c.toNat < 0x7F then c
    else if Text.isBlank c then ' '
    else
      match value? c with
      | some value => Char.ofNat ('0'.toNat + value)
      | none => '?'

/-- The white space that may surround a number in ASCII. -/
def isMargin (c : Char) : Bool := c = ' ' || (9 ≤ c.toNat && c.toNat ≤ 13)

/-- The characters of a number in ASCII, without the white space at either end. -/
def trimmedNumber (cs : List Char) : List Char :=
  let front := (plainNumber cs).dropWhile isMargin
  (front.reverse.dropWhile isMargin).reverse

end TypeContracts.Digit
