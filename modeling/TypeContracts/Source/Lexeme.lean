import TypeContracts.Source.Expression

/-!
# Lexemes of a source text

Names, literals and marks of a source text, in their lines. A line that holds nothing but
a comment is left out, and a line goes on while a bracket is open. A text that breaks off
inside a literal or a bracket has no lexemes.
-/

set_option autoImplicit false

namespace TypeContracts

/-- A piece of a source text. `line` starts a line with its indentation, which counts from the
last form feed. -/
inductive Lexeme where
  | line (indentation : Nat)
  | name (text : String)
  | literal (value : Scalar)
  | ellipsis
  | mark (text : String)
deriving DecidableEq, Repr

namespace Lexeme

/-! ## Numbers -/

/-- A digit in some base up to sixteen. -/
def digitValue? (c : Char) : Option Nat :=
  if c.isDigit then some (c.toNat - '0'.toNat)
  else if 'a' ≤ c && c ≤ 'f' then some (c.toNat - 'a'.toNat + 10)
  else if 'A' ≤ c && c ≤ 'F' then some (c.toNat - 'A'.toNat + 10)
  else none

/-- The number that digits spell in a base, at least one digit. -/
def inBase? (base : Nat) (digits : List Char) : Option Nat :=
  if digits.isEmpty then none
  else digits.foldlM (fun value c => do
    let digit ← digitValue? c
    if digit < base then some (base * value + digit) else none) 0

/-- A number with underscores between its digits, without them. -/
def withoutGaps? : List Char → Option (List Char)
  | [] => some []
  | '_' :: '_' :: _ => none
  | ['_'] => none
  | '_' :: rest => withoutGaps? rest
  | c :: rest => (withoutGaps? rest).map (c :: ·)

/-- A whole number in one of the bases, or in decimal digits that start with no zero. -/
def integer? (cs : List Char) : Option Int := do
  let value ← match ← withoutGaps? cs with
    | '0' :: 'x' :: digits | '0' :: 'X' :: digits => inBase? 16 digits
    | '0' :: 'o' :: digits | '0' :: 'O' :: digits => inBase? 8 digits
    | '0' :: 'b' :: digits | '0' :: 'B' :: digits => inBase? 2 digits
    | '0' :: digits => if digits.all (· = '0') then some 0 else none
    | digits => inBase? 10 digits
  return value

/-- The value of a number. -/
def number? (cs : List Char) : Option Scalar :=
  match integer? cs with
  | some value => some (.integer value)
  | none =>
    let isPointed := cs.any fun c => c = '.' || c = 'e' || c = 'E'
    if isPointed then (Binary64.ofText? (String.ofList cs)).map .real else none

/-- The characters of a number, and those behind it. There is one point in it, and a sign
belongs to it behind the letter of a decimal exponent. -/
def spanNumber (isPointed : Bool) : List Char → List Char × List Char
  | e :: sign :: rest =>
    if (e = 'e' || e = 'E') && (sign = '+' || sign = '-') then
      let (others, behind) := spanNumber true rest
      (e :: sign :: others, behind)
    else if Expression.isNameChar e || (e = '.' && !isPointed) then
      let (others, behind) := spanNumber (isPointed || e = '.') (sign :: rest)
      (e :: others, behind)
    else ([], e :: sign :: rest)
  | [c] => if Expression.isNameChar c || (c = '.' && !isPointed) then ([c], []) else ([], [c])
  | [] => ([], [])

/-! ## Strings -/

/-- What an escape of one letter stands for. -/
def letterEscape? : Char → Option Char
  | 'n' => some '\n'
  | 't' => some '\t'
  | 'r' => some '\r'
  | 'a' => some '\x07'
  | 'b' => some '\x08'
  | 'f' => some '\x0c'
  | 'v' => some '\x0b'
  | '\\' => some '\\'
  | '\'' => some '\''
  | '"' => some '"'
  | _ => none

/-- How many hexadecimal digits an escape letter takes. -/
def escapeWidth? : Char → Option Nat
  | 'x' => some 2
  | 'u' => some 4
  | 'U' => some 8
  | _ => none

/-- The character with a code in the digits of a base. -/
def coded? (base : Nat) (digits : List Char) : Option Char :=
  (inBase? base digits).bind fun code => if code.isValidChar then some (Char.ofNat code) else none

/-- The characters that an escape stands for, and those behind it. A backslash in front of
anything else stands for itself. -/
def escape? (c : Char) (rest : List Char) : Option (List Char × List Char) :=
  if c = '\n' then some ([], rest)
  else
    match letterEscape? c, escapeWidth? c with
    | some image, _ => some ([image], rest)
    | none, some width =>
      if rest.length < width then none
      else (coded? 16 (rest.take width)).map fun image => ([image], rest.drop width)
    | none, none =>
      let octal := (c :: rest.take 2).takeWhile fun d => '0' ≤ d && d ≤ '7'
      if octal.isEmpty then some (['\\', c], rest)
      else (coded? 8 octal).map fun image => ([image], rest.drop (octal.length - 1))

/-- The rest of a string up to its closing quotes, and what is behind them. The count
bounds the length of the string. -/
def readString (closing : List Char) (isRaw : Bool) :
    Nat → List Char → Option (List Char × List Char)
  | 0, _ => none
  | count + 1, cs =>
    match Text.after? closing cs, cs with
    | some behind, _ => some ([], behind)
    | none, [] => none
    | none, '\\' :: c :: rest => do
      let (images, rest) ← if isRaw then some (['\\', c], rest) else escape? c rest
      let (others, behind) ← readString closing isRaw count rest
      return (images ++ others, behind)
    | none, c :: rest =>
      if c = '\n' && closing.length = 1 then none
      else (readString closing isRaw count rest).map fun (others, behind) => (c :: others, behind)

/-- A string at its opening quotes, of which there are one or three. -/
def stringAt? (isRaw : Bool) : List Char → Option (String × List Char)
  | a :: rest =>
    let closing := if (Text.after? [a, a] rest).isSome then [a, a, a] else [a]
    let behind := rest.drop (closing.length - 1)
    if a = '\'' || a = '"' then
      (readString closing isRaw (behind.length + 1) behind).map fun (cs, behind) =>
        (String.ofList cs, behind)
    else none
  | [] => none

/-- The letters in front of a string that tell how it is written. -/
def isStringMark (letters : List Char) : Bool :=
  letters.length ≤ 2 && letters.all fun c => "rRuUbBfF".toList.contains c

/-! ## Lines -/

/-- The marks of several characters, the longer ones first where one starts another. -/
def longMarks : List String :=
  ["**", "//", "<<", ">>", "<=", ">=", "==", "!=", "->", ":="]

/-- The mark at the start of characters, and the characters behind it. -/
def markAt (c : Char) (rest : List Char) : String × List Char :=
  let found := longMarks.findSome? fun text =>
    (Text.after? text.toList (c :: rest)).map fun behind => (text, behind)
  found.getD (c.toString, rest)

/-- A blank inside a line. -/
def isBlank (c : Char) : Bool := c = ' ' || c = '\t' || c = '\x0c'

/-- The depth of brackets behind a mark; a bracket that was not opened cannot close. -/
def depthBehind? (depth : Nat) (c : Char) : Option Nat :=
  if c = '(' || c = '[' || c = '\x7b' then some (depth + 1)
  else if c = ')' || c = ']' || c = '\x7d' then if depth = 0 then none else some (depth - 1)
  else some depth

/-- The lexemes of characters. `starts` tells that a line starts here, and `depth` counts
the open brackets. The count bounds the number of steps. -/
def read : Nat → Bool → Nat → List Char → Option (List Lexeme)
  | 0, _, _, _ => none
  | count + 1, true, depth, cs =>
    let behind := cs.dropWhile isBlank
    match behind with
    | [] => some []
    | '\n' :: rest => read count true depth rest
    | '#' :: rest => read count true depth (rest.dropWhile (· ≠ '\n'))
    | _ =>
      let blanks := (cs.take (cs.length - behind.length)).reverse.takeWhile (· ≠ '\x0c')
      (read count false depth behind).map (.line blanks.length :: ·)
  | count + 1, false, depth, cs =>
    match cs with
    | [] => if depth = 0 then some [] else none
    | '\n' :: rest => read count (depth = 0) depth rest
    | '\\' :: '\n' :: c :: rest => read count false depth (c :: rest)
    | '#' :: rest => read count false depth (rest.dropWhile (· ≠ '\n'))
    | '.' :: '.' :: '.' :: rest => (read count false depth rest).map (.ellipsis :: ·)
    | c :: rest =>
      if isBlank c then read count false depth rest
      else if c = '\'' || c = '"' then do
        let (text, behind) ← stringAt? false cs
        return .literal (.text text) :: (← read count false depth behind)
      else if c.isDigit || (c = '.' && rest.head?.any Char.isDigit) then do
        let (digits, behind) := spanNumber false cs
        return .literal (← number? digits) :: (← read count false depth behind)
      else if Expression.isNameChar c then do
        let letters := cs.takeWhile Expression.isNameChar
        let behind := cs.dropWhile Expression.isNameChar
        if isStringMark letters && behind.head?.any fun d => d = '\'' || d = '"' then
          let (text, behind) ← stringAt? (letters.any fun d => d = 'r' || d = 'R') behind
          return .literal (.text text) :: (← read count false depth behind)
        else if Text.isIdentifier letters then
          return .name (String.ofList letters) :: (← read count false depth behind)
        else none
      else do
        let (text, behind) := markAt c rest
        return .mark text :: (← read count false (← depthBehind? depth c) behind)

/-- The lexemes of a text. -/
def ofText? (text : String) : Option (List Lexeme) :=
  let cs := text.toList
  read (2 * cs.length + 2) true 0 cs

end Lexeme

end TypeContracts
