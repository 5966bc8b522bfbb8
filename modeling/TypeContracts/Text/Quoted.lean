import TypeContracts.Text.Printable

/-!
# Quoted texts in messages

The spelling of a text as a literal of the contracts' own language. Single quotes
surround it unless it holds one and no double quote. Line ends, tabs and characters
that are not printable are written as escapes.
-/

set_option autoImplicit false

namespace TypeContracts.Text

/-- The lower-case hexadecimal digits of a code, at least `width` of them. -/
def hexDigits (width code : Nat) : List Char :=
  let digits := Nat.toDigits 16 code
  List.replicate (width - digits.length) '0' ++ digits

/-- A character inside a literal with the given quote. -/
def quotedChar (quote c : Char) : List Char :=
  if c = quote || c = '\\' then ['\\', c]
  else if c = '\n' then ['\\', 'n']
  else if c = '\r' then ['\\', 'r']
  else if c = '\t' then ['\\', 't']
  else if isPrintable c then [c]
  else if c.toNat < 0x100 then '\\' :: 'x' :: hexDigits 2 c.toNat
  else if c.toNat < 0x10000 then '\\' :: 'u' :: hexDigits 4 c.toNat
  else '\\' :: 'U' :: hexDigits 8 c.toNat

/-- The quote that a literal uses: double only around a single quote without a double one. -/
def quoteFor (cs : List Char) : Char :=
  if cs.contains '\'' && !cs.contains '"' then '"' else '\''

/-- The literal of a text. -/
def quoted (text : String) : String :=
  let cs := text.toList
  let quote := quoteFor cs
  String.ofList (quote :: cs.flatMap (quotedChar quote) ++ [quote])

/-- The literal of bytes: ASCII characters as in a text, all others as escapes. -/
def quotedBytes (bytes : List UInt8) : String :=
  let cs := bytes.map fun byte => Char.ofNat byte.toNat
  let quote := quoteFor cs
  let escaped (c : Char) : List Char :=
    if c.toNat < 0x80 then quotedChar quote c else '\\' :: 'x' :: hexDigits 2 c.toNat
  String.ofList ('b' :: quote :: cs.flatMap escaped ++ [quote])

end TypeContracts.Text
