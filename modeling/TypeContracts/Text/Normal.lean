import TypeContracts.Text.Code
import TypeContracts.Text.Composition

/-!
# The normal form of a name

Two names that are written with different characters can be the same name: an accent can
be part of a letter or a mark behind it, and a ligature stands for its letters. In the
normal form every character is taken apart, the marks on a letter are ordered by their
ranks, and letters are put together again with their marks. A name in plain letters is
its own normal form (`normal_of_plain`).
-/

set_option autoImplicit false

namespace TypeContracts.Text

/-! ## The tables -/

/-- Code points from `first` to `last` that are made of others. -/
structure Parts where
  first : Nat
  last : Nat
  image : List Nat

/-- The two sides of the words of a table. -/
def tableEntries (table : List String) : List (String × String) :=
  (table.flatMap (cut ' ')).filterMap fun word =>
    match cut ':' word with
    | [left, right] => some (left, right)
    | _ => none

/-- What the characters of names are made of. -/
def allParts : List Parts :=
  (tableEntries partsTable).map fun (left, right) =>
    let (first, last) := codeRange left
    ⟨first, last, (cut '.' right).map hexadecimal⟩

/-- The pairs of characters that make a third. -/
def allPairs : List ((Nat × Nat) × Nat) :=
  (tableEntries pairsTable).filterMap fun (left, right) =>
    match cut '.' left with
    | [first, second] => some ((hexadecimal first, hexadecimal second), hexadecimal right)
    | _ => none

/-- The marks with their ranks. -/
def allRanks : List ((Nat × Nat) × Nat) :=
  (tableEntries ranksTable).map fun (left, right) => (codeRange left, hexadecimal right)

/-! ## Syllables -/

/-- The first of the syllables that are made of two or three letters, and their number. -/
def firstSyllable : Nat := 0xac00

/-- How many syllables there are. -/
def syllableCount : Nat := 11172

/-- The letters of a syllable. -/
def syllableParts (index : Nat) : List Nat :=
  [0x1100 + index / 588, 0x1161 + index % 588 / 28] ++
    (if index % 28 = 0 then [] else [0x11a7 + index % 28])

/-- The syllable that two letters make, or a syllable and a letter behind it. -/
def syllable? (first second : Nat) : Option Nat :=
  if 0x1100 ≤ first && first < 0x1113 && 0x1161 ≤ second && second < 0x1176 then
    some (firstSyllable + 588 * (first - 0x1100) + 28 * (second - 0x1161))
  else if firstSyllable ≤ first && first < firstSyllable + syllableCount &&
      (first - firstSyllable) % 28 = 0 && 0x11a7 < second && second < 0x11c3 then
    some (first + (second - 0x11a7))
  else none

/-! ## Taking apart and putting together -/

/-- What a character is made of in the end. -/
def takenApart (code : Nat) : List Nat :=
  if firstSyllable ≤ code && code < firstSyllable + syllableCount then
    syllableParts (code - firstSyllable)
  else
    match allParts.find? fun parts => parts.first ≤ code && code ≤ parts.last with
    | some ⟨first, _, [image]⟩ => [image + (code - first)]
    | some parts => parts.image
    | none => [code]

/-- The rank of a mark; a letter has none. -/
def rank (code : Nat) : Nat :=
  if code < 128 then 0
  else
    ((allRanks.find? fun entry => entry.1.1 ≤ code && code ≤ entry.1.2).map Prod.snd).getD 0

/-- The character that two characters make. -/
def paired? (first second : Nat) : Option Nat :=
  (allPairs.lookup (first, second)).orElse fun _ => syllable? first second

/-- A character in front of ordered ones, put behind the marks of lower rank. -/
def insertMark (code : Nat) : List Nat → List Nat
  | [] => [code]
  | next :: rest =>
    if rank next ≠ 0 && rank next < rank code then next :: insertMark code rest
    else code :: next :: rest

/-- Characters with the marks on each letter ordered by rank. -/
def ordered (codes : List Nat) : List Nat := codes.foldr insertMark []

/-- Characters put together, behind a letter and the marks that stay apart from it. A mark
of the same or a higher rank keeps those behind it from reaching the letter. -/
def together (letter : Nat) (marks : List Nat) : List Nat → List Nat
  | [] => letter :: marks
  | code :: rest =>
    let isFree := marks.getLast?.all fun mark => rank mark < rank code
    match if isFree then paired? letter code else none with
    | some whole => together whole marks rest
    | none =>
      if rank code = 0 then letter :: marks ++ together code [] rest
      else together letter (marks ++ [code]) rest

/-- Characters put together wherever two make a third. -/
def composed : List Nat → List Nat
  | [] => []
  | code :: rest => if rank code = 0 then together code [] rest else code :: composed rest

/-- The normal form of a name. -/
def normal (name : String) : String :=
  if name.toList.all fun c => c.toNat < 128 then name
  else
    let codes := name.toList.flatMap fun c => takenApart c.toNat
    String.ofList ((composed (ordered codes)).map Char.ofNat)

/-- A name in plain letters is its own normal form. -/
theorem normal_of_plain (name : String) (plain : name.toList.all fun c => c.toNat < 128) :
    normal name = name := by
  simp [normal, plain]

end TypeContracts.Text
