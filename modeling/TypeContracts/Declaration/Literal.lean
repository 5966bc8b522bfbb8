/-!
# Literals and property names

How arbitrary text is written in a generated unit. A text literal stands in single
quotes, with the quote and the backslash escaped. A property name stands bare when it
is an identifier and as a literal otherwise.
-/

set_option autoImplicit false

namespace TypeContracts.Literal

/-- A character inside a literal. -/
def escape (c : Char) : List Char :=
  if c = '\\' || c = '\'' then ['\\', c] else [c]

/-- The characters of the literal of a text. -/
def encode (cs : List Char) : List Char := '\'' :: cs.flatMap escape ++ ['\'']

/-- The literal of a text. -/
def quote (text : String) : String := String.ofList (encode text.toList)

/-- The character can begin an identifier. Letters are those of ASCII. -/
def isNameStart (c : Char) : Bool := c.isAlpha || c = '_' || c = '$'

/-- The character can follow in an identifier. -/
def isNamePart (c : Char) : Bool := c.isAlphanum || c = '_' || c = '$'

/-- The characters spell an identifier, with at most one line feed behind it. -/
def isBare : List Char → Bool
  | [] => false
  | c :: rest =>
    let behind := rest.dropWhile isNamePart
    isNameStart c && (behind == [] || behind == ['\n'])

/-- The spelling of a property name. -/
def propertyName (name : String) : String := if isBare name.toList then name else quote name

end TypeContracts.Literal
