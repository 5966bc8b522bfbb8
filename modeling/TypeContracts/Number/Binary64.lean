import TypeContracts.Text.Case
import TypeContracts.Text.Digit

/-!
# Double-precision numbers

A number of the 64-bit binary format as sign, whole mantissa and power of two, with the
two operations that contracts need: reading decimal text and writing it. Both work in
exact arithmetic on natural numbers. Reading rounds to the nearest number and a half to
the even mantissa. Writing takes the fewest digits that read back.
-/

set_option autoImplicit false

namespace TypeContracts

/-- A double-precision number; a finite one is `± mantissa * 2 ^ exponent`. -/
inductive Binary64 where
  | finite (negative : Bool) (mantissa : Nat) (exponent : Int)
  | infinite (negative : Bool)
  | nan
deriving DecidableEq, Repr

namespace Binary64

/-! ## Rounding -/

/-- A quotient rounded to the nearest natural number, a half to the even one. -/
def roundDiv (numerator denominator : Nat) : Nat :=
  let quotient := numerator / denominator
  let twice := 2 * (numerator % denominator)
  if twice < denominator then quotient
  else if denominator < twice then quotient + 1
  else quotient + quotient % 2

/-- The least power of two in a finite number. -/
def leastExponent : Int := -1074

/-- The greatest power of two in a finite number. -/
def greatestExponent : Int := 971

/-- The fraction `numerator / denominator / base ^ exponent` with natural parts. -/
def scaleDown (base numerator denominator : Nat) (exponent : Int) : Nat × Nat :=
  if exponent < 0 then (numerator * base.pow (-exponent).toNat, denominator)
  else (numerator, denominator * base.pow exponent.toNat)

/-- The nearest number to a positive fraction. -/
def ofFraction (negative : Bool) (numerator denominator : Nat) : Binary64 :=
  let estimate : Int := (numerator.log2 : Int) - denominator.log2 - 52
  let (n, d) := scaleDown 2 numerator denominator estimate
  let fitted := if n < d * Nat.pow 2 52 then estimate - 1 else estimate
  let exponent := max fitted leastExponent
  let (n, d) := scaleDown 2 numerator denominator exponent
  let mantissa := roundDiv n d
  let (mantissa, exponent) :=
    if mantissa = Nat.pow 2 53 then (Nat.pow 2 52, exponent + 1) else (mantissa, exponent)
  if exponent > greatestExponent then .infinite negative else .finite negative mantissa exponent

/-- The number of decimal digits of a natural number. -/
def digitCount (n : Nat) : Nat := (Nat.toDigits 10 n).length

/-- The nearest number to `digits * 10 ^ scale`. -/
def ofDecimal (negative : Bool) (digits : Nat) (scale : Int) : Binary64 :=
  let magnitude := scale + digitCount digits
  if digits = 0 || magnitude < -330 then .finite negative 0 leastExponent
  else if magnitude > 310 then .infinite negative
  else
    let (n, d) := scaleDown 10 digits 1 (-scale)
    ofFraction negative n d

/-! ## Reading -/

/-- Digits with single underscores between them, read to their end. -/
def readDigits : List Char → List Char × List Char
  | c :: '_' :: d :: rest =>
    if c.isDigit then
      if d.isDigit then
        let (digits, behind) := readDigits (d :: rest)
        (c :: digits, behind)
      else ([c], '_' :: d :: rest)
    else ([], c :: '_' :: d :: rest)
  | c :: rest =>
    if c.isDigit then
      let (digits, behind) := readDigits rest
      (c :: digits, behind)
    else ([], c :: rest)
  | [] => ([], [])

/-- The natural number that decimal digits spell. -/
def digitsValue (digits : List Char) : Nat :=
  digits.foldl (fun value c => 10 * value + (c.toNat - '0'.toNat)) 0

/-- A sign and what follows it. -/
def readSign : List Char → Bool × List Char
  | '-' :: rest => (true, rest)
  | '+' :: rest => (false, rest)
  | rest => (false, rest)

/-- The exponent part, or nothing where none is needed. -/
def readExponent? : List Char → Option Int
  | [] => some 0
  | e :: rest =>
    if e = 'e' || e = 'E' then
      let (negative, rest) := readSign rest
      match readDigits rest with
      | (c :: digits, []) =>
        let value : Int := digitsValue (c :: digits)
        some (if negative then -value else value)
      | _ => none
    else none

/-- An unsigned decimal: digits, perhaps a point and digits, perhaps an exponent. -/
def readDecimal? (negative : Bool) (cs : List Char) : Option Binary64 :=
  let (whole, rest) := readDigits cs
  let (fraction, rest) :=
    match rest with
    | '.' :: behind => readDigits behind
    | _ => ([], rest)
  if whole.isEmpty && fraction.isEmpty then none
  else
    (readExponent? rest).map fun exponent =>
      ofDecimal negative (digitsValue (whole ++ fraction)) (exponent - fraction.length)

/-- The number that a text spells, white space around it allowed. -/
def ofText? (text : String) : Option Binary64 :=
  let (negative, rest) := readSign (Digit.trimmedNumber text.toList)
  let word := Text.lower (String.ofList rest)
  if word = "inf" || word = "infinity" then some (.infinite negative)
  else if word = "nan" then some .nan
  else readDecimal? negative rest

/-! ## Writing -/

/-- The decimal point of a positive fraction: the number of digits before it, or minus
the number of zeros behind it. -/
def pointOf (numerator denominator : Nat) : Int :=
  if denominator ≤ numerator then digitCount (numerator / denominator)
  else
    let zeros := digitCount (denominator / numerator)
    if denominator ≤ numerator * Nat.pow 10 (zeros - 1) then 2 - (zeros : Int) else 1 - (zeros : Int)

/-- The interval of the numbers that round to a mantissa, in quarters of its unit. -/
def quarters (mantissa : Nat) (exponent : Int) : Nat × Nat :=
  let below := if mantissa = Nat.pow 2 52 && exponent ≠ leastExponent then 1 else 2
  (4 * mantissa - below, 4 * mantissa + 2)

/-- The `count`-digit neighbours of a number that read back as it, nearest first. -/
def neighbours (mantissa : Nat) (exponent : Int) (point : Int) (count : Nat) : List Nat :=
  let (low, high) := quarters mantissa exponent
  -- Everything is measured in quarters of the unit, over the grid step.
  let (unit, step) := scaleDown 2 1 1 (-exponent)
  let (unit, step) := scaleDown 10 unit step (point - count)
  let value := 4 * mantissa * unit
  let inside (candidate : Nat) : Bool :=
    let scaled := candidate * step * 4
    if mantissa % 2 = 0 then low * unit ≤ scaled && scaled ≤ high * unit
    else low * unit < scaled && scaled < high * unit
  let floor := value / (4 * step)
  let twice := 2 * (value % (4 * step))
  let order :=
    if twice < 4 * step then [floor, floor + 1]
    else if 4 * step < twice then [floor + 1, floor]
    else if floor % 2 = 0 then [floor, floor + 1] else [floor + 1, floor]
  order.filter inside

/-- The fewest digits that read back, with the place of the decimal point. -/
def shortest (mantissa : Nat) (exponent : Int) : Nat × Int :=
  let (n, d) := scaleDown 2 mantissa 1 (-exponent)
  let point := pointOf n d
  let found := (List.range 17).findSome? fun index =>
    (neighbours mantissa exponent point (index + 1)).head?.map fun digits =>
      (digits, point - (index + 1))
  found.getD (mantissa, exponent)

/-- Digits without the zeros behind them. -/
def dropZeros (digits : List Char) : List Char :=
  (digits.reverse.dropWhile (· = '0')).reverse

/-- Digits with a decimal point after the first `point` of them. Numbers from a
ten-thousandth up to sixteen places are written out; others take an exponent of at
least two digits. -/
def place (digits : List Char) (point : Int) : String :=
  let zeros (count : Int) := List.replicate count.toNat '0'
  if point ≤ -4 || 16 < point then
    let power := point - 1
    let behind := match digits with
      | [] => []
      | [d] => [d]
      | d :: rest => d :: '.' :: rest
    let width := Nat.toDigits 10 power.natAbs
    String.ofList (behind ++ 'e' :: (if power < 0 then '-' else '+') ::
      (List.replicate (2 - width.length) '0' ++ width))
  else if point ≤ 0 then String.ofList ('0' :: '.' :: zeros (-point) ++ digits)
  else if digits.length ≤ point.toNat then
    String.ofList (digits ++ zeros (point - digits.length) ++ ['.', '0'])
  else String.ofList (digits.take point.toNat ++ '.' :: digits.drop point.toNat)

/-- The text of a number. -/
def text : Binary64 → String
  | .nan => "nan"
  | .infinite negative => if negative then "-inf" else "inf"
  | .finite negative mantissa exponent =>
    let sign := if negative then "-" else ""
    if mantissa = 0 then sign ++ "0.0"
    else
      let (digits, power) := shortest mantissa exponent
      let spelled := Nat.toDigits 10 digits
      sign ++ place (dropZeros spelled) (power + spelled.length)

/-! ## Comparing -/

/-- A finite number as a fraction. -/
def fraction? : Binary64 → Option (Int × Nat)
  | .finite negative mantissa exponent =>
    let (n, d) := scaleDown 2 mantissa 1 (-exponent)
    some (if negative then -(n : Int) else n, d)
  | _ => none

/-- The number nearest to a fraction. -/
def ofRatio (numerator : Int) (denominator : Nat) : Binary64 :=
  ofFraction (numerator < 0) numerator.natAbs denominator

/-- The number is the whole number. -/
def isInt (number : Binary64) (whole : Int) : Bool :=
  match number.fraction? with
  | some (n, d) => n == whole * d
  | none => false

/-! ## Arithmetic -/

/-- Zero. -/
def zero : Binary64 := .finite false 0 leastExponent

/-- The nearest number to a natural one. -/
def ofNat (n : Nat) : Binary64 := if n = 0 then zero else ofFraction false n 1

/-- The number with the other sign. -/
def negated : Binary64 → Binary64
  | .finite negative mantissa exponent => .finite (!negative) mantissa exponent
  | .infinite negative => .infinite !negative
  | .nan => .nan

/-- The number lies below zero, or is the zero below zero. -/
def isNegative : Binary64 → Bool
  | .finite negative _ _ => negative
  | .infinite negative => negative
  | .nan => false

/-- The sum of two numbers. -/
def plus (a b : Binary64) : Binary64 :=
  match a.fraction?, b.fraction?, a, b with
  | some (m, d), some (n, e), _, _ =>
    let total := m * e + n * d
    if total = 0 then if a.isNegative && b.isNegative then zero.negated else zero
    else ofRatio total (d * e)
  | _, some _, .infinite negative, _ => .infinite negative
  | some _, _, _, .infinite negative => .infinite negative
  | _, _, .infinite s, .infinite t => if s = t then .infinite s else .nan
  | _, _, _, _ => .nan

/-- The product of two numbers. -/
def times (a b : Binary64) : Binary64 :=
  let negative := a.isNegative != b.isNegative
  match a.fraction?, b.fraction?, a, b with
  | some (m, d), some (n, e), _, _ =>
    if m * n = 0 then if negative then zero.negated else zero
    else ofRatio (m * n) (d * e)
  | some (m, _), _, _, .infinite _ => if m = 0 then .nan else .infinite negative
  | _, some (n, _), .infinite _, _ => if n = 0 then .nan else .infinite negative
  | _, _, .infinite _, .infinite _ => .infinite negative
  | _, _, _, _ => .nan

/-! ## Equality -/

/-- Numbers compare by value: the two zeros are one, and no number is equal to `nan`. -/
def same : Binary64 → Binary64 → Bool
  | .finite s m e, .finite t n f => (m = 0 && n = 0) || (s = t && m = n && e = f)
  | .infinite s, .infinite t => s = t
  | _, _ => false

end Binary64

end TypeContracts
