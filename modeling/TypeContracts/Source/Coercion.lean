import TypeContracts.Source.Value

/-!
# Making values into others

The rules by which values are made into whole numbers, texts, double-precision numbers and
tuples. Each takes a list of values, because the parts of a tuple are handed over one by
one: a whole number can be made from a text and the base that it is written in.
-/

set_option autoImplicit false

namespace TypeContracts

/-- Why values cannot be made into another. -/
inductive CoercionFault where
  | tooMany (target : String) (most given : Nat)
  | unexpected (target : String) (most given : Nat)
  | noNumber (sort : String)
  | noReal (sort : String)
  | noWhole (sort : String)
  | noIterable (sort : String)
  | spelledOut
  | strangeBase
  | badNumber (base : Int) (text : String)
  | badReal (text : String)
  | infinite
  | undefined
  | tooGreat
  | tooLong (digits : Nat)
  | decodedText
  | undecodable (sort : String)
  | wrongPart (part sort : String)
  | noText (value : String)
deriving DecidableEq, Repr

namespace CoercionFault

/-- The report of a fault. -/
def message : CoercionFault → String
  | .tooMany target most given =>
    target ++ "() takes at most " ++ toString most ++
      (if most = 1 then " argument (" else " arguments (") ++ toString given ++ " given)"
  | .unexpected target most given =>
    target ++ " expected at most " ++ toString most ++
      (if most = 1 then " argument, got " else " arguments, got ") ++ toString given
  | .noNumber sort =>
    "int() argument must be a string, a bytes-like object or a real number, not '" ++ sort ++ "'"
  | .noReal sort => "float() argument must be a string or a real number, not '" ++ sort ++ "'"
  | .noWhole sort => "'" ++ sort ++ "' object cannot be interpreted as an integer"
  | .noIterable sort => "'" ++ sort ++ "' object is not iterable"
  | .spelledOut => "int() can't convert non-string with explicit base"
  | .strangeBase => "int() base must be >= 2 and <= 36, or 0"
  | .badNumber base text =>
    "invalid literal for int() with base " ++ toString base ++ ": " ++
      String.ofList ((Text.quoted text).toList.take 200)
  | .badReal text => "could not convert string to float: " ++ Text.quoted text
  | .infinite => "cannot convert float infinity to integer"
  | .undefined => "cannot convert float NaN to integer"
  | .tooGreat => "int too large to convert to float"
  | .tooLong digits =>
    "Exceeds the limit (4300 digits) for integer string conversion: value has " ++
      toString digits ++ " digits; use sys.set_int_max_str_digits() to increase the limit"
  | .decodedText => "decoding str is not supported"
  | .undecodable sort => "decoding to str: need a bytes-like object, " ++ sort ++ " found"
  | .wrongPart part sort => "str() argument '" ++ part ++ "' must be str, not " ++ sort
  | .noText value => value ++ " is not a string"

/-- The kind of exception that a fault is raised as. -/
def kind : CoercionFault → String
  | .strangeBase | .badNumber .. | .badReal _ | .undefined | .tooLong _ => "ValueError"
  | .infinite | .tooGreat => "OverflowError"
  | _ => "TypeError"

end CoercionFault

namespace Coercion

/-- A value made from others, or why there is none. -/
abbrev Made := Except CoercionFault EnumValue

/-! ## Whole numbers -/

/-- The value of a digit in a base up to thirty-six. -/
def digitValue? (c : Char) : Option Nat :=
  if c.isDigit then some (c.toNat - '0'.toNat)
  else if 'a' ≤ c && c ≤ 'z' then some (c.toNat - 'a'.toNat + 10)
  else if 'A' ≤ c && c ≤ 'Z' then some (c.toNat - 'A'.toNat + 10)
  else none

/-- The digits of a number in a base, without the single underscores between them. -/
def digits? (base : Nat) : List Char → Option (List Nat)
  | [] => none
  | [c] => do
    let digit ← digitValue? c
    if digit < base then return [digit] else none
  | c :: '_' :: rest => do
    let digit ← digitValue? c
    if digit < base then return digit :: (← digits? base rest) else none
  | c :: rest => do
    let digit ← digitValue? c
    if digit < base then return digit :: (← digits? base rest) else none

/-- The base that letters behind a zero stand for. -/
def baseOf? (letter : Char) : Option Nat :=
  match letter.toLower with
  | 'x' => some 16
  | 'o' => some 8
  | 'b' => some 2
  | _ => none

/-- The base of a number that is written in the given base, or tells its base itself, and
its digits. -/
def withoutMark (base : Nat) (cs : List Char) : Nat × List Char :=
  match cs with
  | '0' :: letter :: rest =>
    match baseOf? letter with
    | some marked =>
      if base = marked || base = 0 then
        (marked, match rest with | '_' :: rest => rest | rest => rest)
      else (if base = 0 then 10 else base, cs)
    | none => (if base = 0 then 10 else base, cs)
  | cs => (if base = 0 then 10 else base, cs)

/-- The greatest number of digits that are read in a base that is no power of two. -/
def digitLimit : Nat := 4300

/-- The whole number that a text spells in a base; base zero leaves it to the text. -/
def readWhole (base : Nat) (text : String) : Except CoercionFault Int :=
  let (negative, cs) := Binary64.readSign (Digit.trimmedNumber text.toList)
  let (actual, body) := withoutMark base cs
  match digits? actual body with
  | none => .error (.badNumber base text)
  | some digits =>
    let value : Int := (digits.foldl (fun value digit => actual * value + digit) 0 : Nat)
    if base = 0 && actual = 10 && value != 0 && body.head? = some '0' then
      .error (.badNumber base text)
    else if digitLimit < digits.length && !([2, 4, 8, 16, 32].contains actual) then
      .error (.tooLong digits.length)
    else .ok (if negative then -value else value)

/-- A single value made into a whole number. -/
def wholeOf : EnumValue → Except CoercionFault Int
  | .integer value => .ok value
  | .flag value => .ok (EnumValue.flagNumber value)
  | .real .nan => .error .undefined
  | .real (.infinite _) => .error .infinite
  | .real value =>
    match value.fraction? with
    | some (n, d) => .ok (n.tdiv d)
    | none => .error .undefined
  | .text value => readWhole 10 value
  | value => .error (.noNumber value.sort)

/-- Values made into a whole number: none is zero, and a second one is the base of a
text. -/
def toWhole : List EnumValue → Made
  | [] => .ok (.integer 0)
  | [value] => (wholeOf value).map .integer
  | [.text text, base] =>
    match base.whole? with
    | none => .error (.noWhole base.sort)
    | some base =>
      if base < 0 || base = 1 || 36 < base then .error .strangeBase
      else (readWhole base.toNat text).map .integer
  | [_, base] =>
    match base.whole? with
    | none => .error (.noWhole base.sort)
    | some base =>
      if base < 0 || base = 1 || 36 < base then .error .strangeBase else .error .spelledOut
  | values => .error (.tooMany "int" 2 values.length)

/-! ## Texts -/

/-- Values made into a text: none is the empty text, and further ones tell how bytes are
decoded, of which there are none. -/
def toText : List EnumValue → Made
  | [] => .ok (.text "")
  | [value] => .ok (.text value.shown)
  | [value, encoding] => decoded value [("encoding", encoding)]
  | [value, encoding, errors] => decoded value [("encoding", encoding), ("errors", errors)]
  | values => .error (.tooMany "str" 3 values.length)
where
  /-- No value is decoded. -/
  decoded (value : EnumValue) (parts : List (String × EnumValue)) : Made := do
    for (name, part) in parts do
      match part with
      | .text _ => pure ()
      | part => throw (.wrongPart name part.sort)
    match value with
    | .text _ => throw .decodedText
    | value => throw (.undecodable value.sort)

/-- The only value, if it is a text. -/
def onlyText : List EnumValue → Made
  | [.text value] => .ok (.text value)
  | [value] => .error (.noText value.spelling)
  | values => toText values

/-! ## Double-precision numbers and tuples -/

/-- Values made into a double-precision number: none is zero. -/
def toReal : List EnumValue → Made
  | [] => .ok (.real Binary64.zero)
  | [.real value] => .ok (.real value)
  | [.text text] =>
    match Binary64.ofText? text with
    | some value => .ok (.real value)
    | none => .error (.badReal text)
  | [value] =>
    match value.whole? with
    | none => .error (.noReal value.sort)
    | some whole =>
      match EnumValue.realOf whole with
      | .infinite _ => .error .tooGreat
      | real => .ok (.real real)
  | values => .error (.unexpected "float" 1 values.length)

/-- The values that a value consists of. -/
def parts : EnumValue → Except CoercionFault (List EnumValue)
  | .tuple parts => .ok parts
  | .text value => .ok (value.toList.map fun c => .text c.toString)
  | value => .error (.noIterable value.sort)

/-- Values made into a tuple: none is the empty tuple. -/
def toTuple : List EnumValue → Made
  | [] => .ok (.tuple [])
  | [value] => (parts value).map .tuple
  | values => .error (.unexpected "tuple" 1 values.length)

/-- Values made into a truth value: none is false. -/
def toFlag : List EnumValue → Made
  | [] => .ok (.flag false)
  | [value] => .ok (.flag value.isTrue)
  | values => .error (.unexpected "bool" 1 values.length)

end Coercion

end TypeContracts
