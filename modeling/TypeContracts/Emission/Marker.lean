import TypeContracts.Emission.Text

/-!
# The custom section

What an author has written behind the marker line of a generated file. The first marker
line of a text splits it; a marker line may have blanks behind the marker, and ends
with a line feed, with a carriage return before it or not, or with the text.
-/

set_option autoImplicit false

namespace TypeContracts.Emission

/-- A space or a tab. -/
def isInlineBlank (c : Char) : Bool := c = ' ' || c = '\t'

/-- What stands behind the end of a line, when the characters start with one. The end of
the text ends a line too. -/
def afterLineEnd? : List Char → Option (List Char)
  | [] => some []
  | '\n' :: rest => some rest
  | '\r' :: '\n' :: rest => some rest
  | _ => none

/-- What stands behind a marker line at the start of the characters. -/
def afterMarker? (marker cs : List Char) : Option (List Char) :=
  (Text.after? marker cs).bind fun rest => afterLineEnd? (rest.dropWhile isInlineBlank)

/-- What stands behind the first marker line; `atStart` tells that a line starts here. -/
def splitAtMarker? (marker : List Char) (atStart : Bool) : List Char → Option (List Char)
  | [] => if atStart then afterMarker? marker [] else none
  | c :: rest =>
    match if atStart then afterMarker? marker (c :: rest) else none with
    | some custom => some custom
    | none => splitAtMarker? marker (c = '\n') rest

/-- The custom section of a text, if the text has a marker line. -/
def customSection? (options : Options) (text : String) : Option String :=
  (splitAtMarker? (markerLine options).toList true text.toList).map String.ofList

end TypeContracts.Emission
