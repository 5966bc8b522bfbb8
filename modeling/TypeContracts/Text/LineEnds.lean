/-!
# Line ends

A text that is read from a file has one line feed at the end of each line, whichever line
ends the file has.
-/

set_option autoImplicit false

namespace TypeContracts.Text

/-- Characters with every line end as one line feed. -/
def unifyLineEnds : List Char → List Char
  | [] => []
  | '\r' :: '\n' :: rest => '\n' :: unifyLineEnds rest
  | '\r' :: rest => '\n' :: unifyLineEnds rest
  | c :: rest => c :: unifyLineEnds rest

/-- A text with every line end as one line feed. -/
def unified (text : String) : String := String.ofList (unifyLineEnds text.toList)

end TypeContracts.Text
