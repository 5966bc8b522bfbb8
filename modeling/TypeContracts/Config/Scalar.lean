import TypeContracts.Config.Data

/-!
# Plain scalars

What an unquoted scalar of a configuration document means. Words for truth values and
null, whole numbers in several bases, numbers with a point, days and moments have a
meaning of their own; everything else is text. Some spellings of these have no value:
digits that are missing or too many, and days that the calendar does not have.
-/

set_option autoImplicit false

namespace TypeContracts

/-- Why a document has no value. -/
inductive DocumentFault where
  | malformed
  | calendar (fault : CalendarFault)
  | noDigits (base : Nat)
  | tooManyDigits (count : Nat)
  | beyondReals
  | noCharacter
  | beyondCodes
deriving DecidableEq, Repr

namespace Scalar

/-- The words for true. -/
def trueWords : List String :=
  ["yes", "Yes", "YES", "true", "True", "TRUE", "on", "On", "ON"]

/-- The words for false. -/
def falseWords : List String :=
  ["no", "No", "NO", "false", "False", "FALSE", "off", "Off", "OFF"]

/-- The words for null. -/
def nullWords : List String := ["", "~", "null", "Null", "NULL"]

/-- The character is a digit or an underscore. -/
def isDigitOrGap (c : Char) : Bool := c.isDigit || c = '_'

/-- The characters without underscores. -/
def withoutGaps (cs : List Char) : List Char := cs.filter (· ≠ '_')

/-- The value of a hexadecimal digit. -/
def digitValue (c : Char) : Nat :=
  if c.isDigit then c.toNat - '0'.toNat else c.toLower.toNat - 'a'.toNat + 10

/-- The number that digits of a base spell. -/
def inBase (base : Nat) (digits : List Char) : Nat :=
  (withoutGaps digits).foldl (fun value c => base * value + digitValue c) 0

/-- A part of a clock reading: one digit, or two of which the first is below six. -/
def isSixtieth : List Char → Bool
  | [c] => c.isDigit
  | [a, b] => '0' ≤ a && a ≤ '5' && b.isDigit
  | _ => false

/-! ## Whole numbers -/

/-- How a whole number is spelled: with digits of a base that is a power of two, or in base
sixty, with a decimal number in each place. A decimal number is a single place. -/
inductive WholeSpelling where
  | digits (base : Nat) (cs : List Char)
  | places (parts : List (List Char))

/-- The number that a spelling means. -/
def WholeSpelling.value : WholeSpelling → Except DocumentFault Nat
  | .digits base cs =>
    if (withoutGaps cs).isEmpty then .error (.noDigits base) else .ok (inBase base cs)
  | .places parts =>
    let longest := (parts.map fun part => (withoutGaps part).length).foldl max 0
    if Data.digitLimit < longest then .error (.tooManyDigits longest)
    else .ok (parts.foldl (fun value part => 60 * value + inBase 10 part) 0)

/-- A whole number without its sign. -/
def natural? (cs : List Char) : Option WholeSpelling :=
  match cs with
  | '0' :: 'b' :: digits =>
    if !digits.isEmpty && digits.all (fun c => c = '0' || c = '1' || c = '_') then
      some (.digits 2 digits)
    else none
  | '0' :: 'x' :: digits =>
    let isHex (c : Char) :=
      c.isDigit || ('a' ≤ c && c ≤ 'f') || ('A' ≤ c && c ≤ 'F') || c = '_'
    if !digits.isEmpty && digits.all isHex then some (.digits 16 digits) else none
  | '0' :: digits =>
    if digits.all (fun c => ('0' ≤ c && c ≤ '7') || c = '_') then some (.digits 8 cs) else none
  | c :: _ =>
    if c.isDigit then
      match Text.pieces ':' cs with
      | first :: rest =>
        if first.all isDigitOrGap && rest.all isSixtieth then some (.places (first :: rest))
        else none
      | [] => none
    else none
  | [] => none

/-- A whole number. -/
def integer? (cs : List Char) : Option (Except DocumentFault Int) :=
  let (negative, rest) := Binary64.readSign cs
  (natural? rest).map fun spelling =>
    spelling.value.map fun (value : Nat) => if negative then -(value : Int) else value

/-! ## Numbers with a point -/

/-- An exponent with its sign, or nothing. -/
def exponent? : List Char → Option Int
  | [] => some 0
  | e :: sign :: digits =>
    if (e = 'e' || e = 'E') && (sign = '+' || sign = '-') && !digits.isEmpty &&
        digits.all Char.isDigit then
      let value : Int := inBase 10 digits
      some (if sign = '-' then -value else value)
    else none
  | _ => none

/-- A number from digits on both sides of a point, and an exponent. -/
def pointed (negative : Bool) (whole fraction : List Char) (exponent : Int) : Binary64 :=
  let fraction := withoutGaps fraction
  Binary64.ofDecimal negative (inBase 10 (whole ++ fraction)) (exponent - fraction.length)

/-- The places of a number in base sixty added up from the last one on, each with its
weight. Every step rounds. -/
def addPlaces (sum : Binary64) (weight : Nat) : List Binary64 → Except DocumentFault Binary64
  | [] => .ok sum
  | place :: rest =>
    match Binary64.ofNat weight with
    | .infinite _ => .error .beyondReals
    | factor => addPlaces (sum.plus (place.times factor)) (60 * weight) rest

/-- A number with a point whose whole part is not empty. -/
def decimal? (negative : Bool) (cs : List Char) : Option (Except DocumentFault Binary64) :=
  let whole := cs.takeWhile (· ≠ '.')
  match cs.dropWhile (· ≠ '.'), Text.pieces ':' whole with
  | '.' :: behind, [_] =>
    let fraction := behind.takeWhile isDigitOrGap
    if (whole.head?.any Char.isDigit) && whole.all isDigitOrGap then
      (exponent? (behind.dropWhile isDigitOrGap)).map fun exponent =>
        .ok (pointed negative whole fraction exponent)
    else none
  | '.' :: behind, first :: rest =>
    if first.head?.any Char.isDigit && first.all isDigitOrGap && rest.all isSixtieth &&
        behind.all isDigitOrGap then
      let parts := (first :: rest).reverse
      let places := match parts with
        | [] => []
        | last :: others => pointed false last behind 0 :: others.map fun cs => pointed false cs [] 0
      some ((addPlaces .zero 1 places).map fun value =>
        if negative then value.negated else value)
    else none
  | _, _ => none

/-- A number with a point. -/
def real? (cs : List Char) : Option (Except DocumentFault Binary64) :=
  let (negative, rest) := Binary64.readSign cs
  if rest = ['.', 'i', 'n', 'f'] || rest = ['.', 'I', 'n', 'f'] || rest = ['.', 'I', 'N', 'F'] then
    some (.ok (.infinite negative))
  else if cs = ['.', 'n', 'a', 'n'] || cs = ['.', 'N', 'a', 'N'] || cs = ['.', 'N', 'A', 'N'] then
    some (.ok .nan)
  else
    match cs with
    | '.' :: c :: behind =>
      if c.isDigit then
        (exponent? (behind.dropWhile isDigitOrGap)).map fun exponent =>
          .ok (pointed false [] (c :: behind.takeWhile isDigitOrGap) exponent)
      else none
    | _ => decimal? negative rest

/-! ## Days and moments -/

/-- A number of at least `least` and at most `most` digits, and what follows it. -/
def number? (least most : Nat) (cs : List Char) : Option (Nat × List Char) :=
  let digits := (cs.take most).takeWhile Char.isDigit
  if digits.length < least then none else some (inBase 10 digits, cs.drop digits.length)

/-- A mark, and what follows it. -/
def behindMark? (mark : Char) (cs : List Char) : Option (List Char) := Text.after? [mark] cs

/-- The numbers of a day, the last two with at least `least` digits, and what follows. -/
def dayNumbers? (least : Nat) (cs : List Char) : Option ((Nat × Nat × Nat) × List Char) := do
  let (year, cs) ← number? 4 4 cs
  let (month, cs) ← number? least 2 (← behindMark? '-' cs)
  let (day, cs) ← number? least 2 (← behindMark? '-' cs)
  return ((year, month, day), cs)

/-- A day: a year of four digits, a month and a day of two. -/
def day? (cs : List Char) : Option (Except CalendarFault Day) :=
  match dayNumbers? 2 cs with
  | some ((year, month, day), []) => some (Day.ofNumbers year month day)
  | _ => none

/-- What stands between a day and the time of the day. -/
def behindDay? (cs : List Char) : Option (List Char) :=
  match cs with
  | 'T' :: rest => some rest
  | 't' :: rest => some rest
  | c :: _ => if c = ' ' || c = '\t' then some (cs.dropWhile fun c => c = ' ' || c = '\t') else none
  | [] => none

/-- A fraction of a second in microseconds; more digits than these are cut. -/
def microseconds (digits : List Char) : Nat :=
  let digits := digits.take 6
  inBase 10 (digits ++ List.replicate (6 - digits.length) '0')

/-- How many minutes a clock is ahead: nothing, a letter for universal time, or hours with
a sign and perhaps minutes. -/
def ahead? (cs : List Char) : Option (Option Int) :=
  match cs, cs.dropWhile fun c => c = ' ' || c = '\t' with
  | [], _ => some none
  | _, ['Z'] => some (some 0)
  | _, sign :: rest =>
    if sign = '+' || sign = '-' then do
      let (hours, rest) ← number? 1 2 rest
      let minutes ← match rest with
        | [] => some 0
        | rest => do
          let (minutes, rest) ← number? 2 2 (← behindMark? ':' rest)
          if rest.isEmpty then some minutes else none
      let span : Int := 60 * hours + minutes
      return some (if sign = '-' then -span else span)
    else none
  | _, [] => none

/-- A moment: a day, the time of the day, and perhaps how far its clock is ahead. -/
def moment? (cs : List Char) : Option (Except CalendarFault Moment) := do
  let ((year, month, day), cs) ← dayNumbers? 1 cs
  let (hour, cs) ← number? 1 2 (← behindDay? cs)
  let (minute, cs) ← number? 2 2 (← behindMark? ':' cs)
  let (second, cs) ← number? 2 2 (← behindMark? ':' cs)
  let (fraction, cs) := match cs with
    | '.' :: rest => (rest.takeWhile Char.isDigit, rest.dropWhile Char.isDigit)
    | cs => ([], cs)
  return Moment.ofNumbers year month day hour minute second (microseconds fraction) (← ahead? cs)

/-! ## Resolution -/

/-- The mark of a mapping that takes entries from others. -/
def mergeMark : String := "<<"

/-- The mark of a value that stands for a whole mapping. -/
def valueMark : String := "="

/-- What a plain scalar means. The two marks have a meaning only as keys. -/
def meaning (word : String) : Except DocumentFault Data :=
  let cs := word.toList
  if trueWords.contains word then .ok (.flag true)
  else if falseWords.contains word then .ok (.flag false)
  else if nullWords.contains word then .ok .null
  else if word = mergeMark || word = valueMark then .error .malformed
  else
    match real? cs, integer? cs, day? cs, moment? cs with
    | some value, _, _, _ => value.map .real
    | _, some value, _, _ => value.map .integer
    | _, _, some value, _ => (value.mapError .calendar).map .day
    | _, _, _, some value => (value.mapError .calendar).map .moment
    | _, _, _, _ => .ok (.text word)

end Scalar

end TypeContracts
