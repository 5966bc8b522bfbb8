import TypeContracts.Text.Pieces

/-!
# Codes of characters

Code points in hexadecimal digits, alone or as the first and the last of several: the words
in which tables of characters are written.
-/

set_option autoImplicit false

namespace TypeContracts.Text

/-- The value of a hexadecimal digit. -/
def hexadecimalDigit (c : Char) : Nat :=
  if c.isDigit then c.toNat - '0'.toNat else c.toNat - 'a'.toNat + 10

/-- The number that hexadecimal digits spell. -/
def hexadecimal (digits : String) : Nat :=
  digits.toList.foldl (fun value c => 16 * value + hexadecimalDigit c) 0

/-- The first and the last of the code points that the left part of a word gives. -/
def codeRange (text : String) : Nat × Nat :=
  match cut '-' text with
  | [first, last] => (hexadecimal first, hexadecimal last)
  | _ => (hexadecimal text, hexadecimal text)

end TypeContracts.Text
