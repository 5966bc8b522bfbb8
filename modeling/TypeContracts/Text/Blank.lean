/-!
# White space

The characters that surround a text without belonging to it, and the removal of them
from both ends. Every character that core calls white space is one
(`isBlank_of_isWhitespace`); the class also holds the separators of the Unicode
tables and the four information separators.
-/

set_option autoImplicit false

namespace TypeContracts.Text

/-- White space: blanks, line ends, and the separators of ASCII and Unicode. -/
def isBlank (c : Char) : Bool :=
  let code := c.toNat
  (9 ≤ code && code ≤ 13) || (28 ≤ code && code ≤ 32) || code == 0x85 || code == 0xA0 ||
    code == 0x1680 || (0x2000 ≤ code && code ≤ 0x200A) || code == 0x2028 || code == 0x2029 ||
    code == 0x202F || code == 0x205F || code == 0x3000

/-- Characters without the white space in front. -/
def trimLeft (cs : List Char) : List Char := cs.dropWhile isBlank

/-- Characters without the white space behind. -/
def trimRight (cs : List Char) : List Char := (cs.reverse.dropWhile isBlank).reverse

/-- Characters without the white space at either end. -/
def trim (cs : List Char) : List Char := trimRight (trimLeft cs)

/-- A text without the white space at either end. -/
def strip (text : String) : String := String.ofList (trim text.toList)

/-- What core calls white space is white space here. -/
theorem isBlank_of_isWhitespace (c : Char) (h : c.isWhitespace = true) : isBlank c = true := by
  simp only [Char.isWhitespace, Bool.or_eq_true, decide_eq_true_eq] at h
  rcases h with ((h | h) | h) | h <;> subst h <;> decide

end TypeContracts.Text
