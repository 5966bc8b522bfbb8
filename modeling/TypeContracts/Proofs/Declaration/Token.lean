import TypeContracts.Proofs.Declaration.Literal

/-!
# Tokens that denote texts

A script reads a text literal in single quotes character by character: a backslash begins an
escape, a quote ends the literal, a line feed or a carriage return is refused, and every other
character stands for itself. The relations of this module are the productions of the lexical
grammar of ECMAScript for such literals in module code, with the code units that they stand for
and what is left behind them (`Token.Escape`, `Token.Inside`, `Token.TextLiteral`). A property name
is such a literal or an identifier (`Token.PropertyName`).

A text has one literal, and the literal is read as the text, whatever stands behind it
(`Token.textLiteral_encode_iff`): the escaped quotes and backslashes are undone one by one. This
takes that the text holds neither a line feed nor a carriage return. Both are written as they are,
so that the literal breaks off there and nothing is read at all. A property name that is an
identifier with a line feed behind it passes for an identifier, and what is read is the name
without the line feed (`Token.denotes_iff_unbroken`).
-/

set_option autoImplicit false

namespace TypeContracts.Token

open Literal (isIdentifier isNamePart isBare encode escape quote propertyName)

/-! ## Values -/

/-- The code units of a code point: the code point itself, or two surrogates beyond the first
plane. -/
def codeUnits (point : Nat) : List Nat :=
  if point < 0x10000 then [point]
  else [0xD800 + (point - 0x10000) / 0x400, 0xDC00 + (point - 0x10000) % 0x400]

/-- The value that stands for characters in a script: their code units. -/
def value (cs : List Char) : List Nat := cs.flatMap fun c => codeUnits c.toNat

/-- Where the value of a character ends and another one begins is told from the code units: only
the first surrogate of two is one of the upper half. -/
theorem codeUnits_append_inj {c c' : Char} {behind behind' : List Nat}
    (same : codeUnits c.toNat ++ behind = codeUnits c'.toNat ++ behind') :
    c = c' ∧ behind = behind' := by
  have scalar : ∀ c : Char, c.toNat < 0xD800 ∨ 0xDFFF < c.toNat ∧ c.toNat < 0x110000 := fun c =>
    c.valid
  have first := scalar c
  have second := scalar c'
  rw [← Char.toNat_inj]
  unfold codeUnits at same
  split_ifs at same with low low' low' <;> simp at same
  · exact same
  · omega
  · omega
  · exact ⟨by omega, same.2.2⟩

/-- The value of a text tells the text. -/
theorem value_injective {cs cs' : List Char} (same : value cs = value cs') : cs = cs' := by
  have proper : ∀ (c : Char) (rest : List Char), value (c :: rest) ≠ [] := by
    intro c rest
    rw [value, List.flatMap_cons, codeUnits]
    split_ifs <;> simp
  induction cs generalizing cs' with
  | nil =>
    cases cs' with
    | nil => rfl
    | cons c rest => exact absurd same.symm (proper c rest)
  | cons c rest ih =>
    cases cs' with
    | nil => exact absurd same (proper c rest)
    | cons c' rest' =>
      obtain ⟨rfl, further⟩ := codeUnits_append_inj same
      rw [ih further]

/-! ## Escapes -/

/-- A line of a script ends at the character. -/
def endsLine (c : Char) : Bool := c = '\n' || c = '\r' || c = '\u2028' || c = '\u2029'

/-- The characters that stand for a code unit of their own behind a backslash. -/
def namedEscapes : List (Char × Nat) :=
  [('\'', 0x27), ('"', 0x22), ('\\', 0x5C), ('b', 0x08), ('f', 0x0C), ('n', 0x0A), ('r', 0x0D),
   ('t', 0x09), ('v', 0x0B)]

/-- The character has a meaning of its own behind a backslash. -/
def beginsEscape (c : Char) : Bool :=
  namedEscapes.any (fun entry => entry.1 = c) || c.isDigit || c = 'x' || c = 'u'

/-- The value of a hexadecimal digit. -/
def hexDigit? (c : Char) : Option Nat :=
  if c.isDigit then some (c.toNat - '0'.toNat)
  else if 'a' ≤ c ∧ c ≤ 'f' then some (c.toNat - 'a'.toNat + 10)
  else if 'A' ≤ c ∧ c ≤ 'F' then some (c.toNat - 'A'.toNat + 10)
  else none

/-- The characters are hexadecimal digits of the number. -/
def Hexadecimal (digits : List Char) (number : Nat) : Prop :=
  ∃ values, digits.mapM hexDigit? = some values ∧
    values.foldl (fun number digit => 16 * number + digit) 0 = number

/-- Characters behind a backslash are read as code units, up to a rest. A backslash in front of
the end of a line stands for nothing. -/
inductive Escape : List Char → List Nat → List Char → Prop where
  | named {c : Char} {unit : Nat} {rest : List Char} (entry : (c, unit) ∈ namedEscapes) :
    Escape (c :: rest) [unit] rest
  | itself {c : Char} {rest : List Char} (plain : beginsEscape c = false)
    (inside : endsLine c = false) : Escape (c :: rest) (codeUnits c.toNat) rest
  | null {rest : List Char} (ends : ∀ c ∈ rest.head?, c.isDigit = false) :
    Escape ('0' :: rest) [0] rest
  | unit {digits rest : List Char} {number : Nat} (spelled : Hexadecimal digits number)
    (length : digits.length = 2) : Escape ('x' :: (digits ++ rest)) [number] rest
  | wideUnit {digits rest : List Char} {number : Nat} (spelled : Hexadecimal digits number)
    (length : digits.length = 4) : Escape ('u' :: (digits ++ rest)) [number] rest
  | point {digits rest : List Char} {number : Nat} (spelled : Hexadecimal digits number)
    (proper : digits ≠ []) (bounded : number ≤ 0x10FFFF) :
    Escape ('u' :: '{' :: (digits ++ '}' :: rest)) (codeUnits number) rest
  | lineEnd {c : Char} {rest : List Char} (ends : endsLine c = true)
    (single : c = '\r' → rest.head? ≠ some '\n') : Escape (c :: rest) [] rest
  | returnFeed {rest : List Char} : Escape ('\r' :: '\n' :: rest) [] rest

/-- A quote or a backslash behind a backslash is read as itself, and in no other way. -/
theorem escape_special_iff {c : Char} (special : c = '\\' ∨ c = '\'') {behind rest : List Char}
    {units : List Nat} :
    Escape (c :: behind) units rest ↔ units = codeUnits c.toNat ∧ rest = behind := by
  have named : ∀ unit, (c, unit) ∈ namedEscapes ↔ [unit] = codeUnits c.toNat := by
    rcases special with rfl | rfl <;> simp [namedEscapes, codeUnits]
  have begins : beginsEscape c = true := by rcases special with rfl | rfl <;> decide
  have inside : endsLine c = false := by rcases special with rfl | rfl <;> decide
  have other : ∀ d ∈ ['0', 'x', 'u', '\r'], c ≠ d := by rcases special with rfl | rfl <;> simp
  have apart : ∀ {d : Char} {cs : List Char}, d ∈ ['0', 'x', 'u', '\r'] →
      c :: behind ≠ d :: cs := fun member same => other _ member (List.cons.inj same).1
  constructor
  · intro read
    generalize whole : c :: behind = cs at read
    cases read with
    | named entry =>
      obtain ⟨rfl, rfl⟩ := List.cons.inj whole
      exact ⟨(named _).mp entry, rfl⟩
    | itself plain =>
      obtain ⟨rfl, rfl⟩ := List.cons.inj whole
      rw [begins] at plain
      cases plain
    | null | unit | wideUnit | point | returnFeed => exact absurd whole (apart (by decide))
    | lineEnd ends =>
      obtain ⟨rfl, rfl⟩ := List.cons.inj whole
      rw [inside] at ends
      cases ends
  · rintro ⟨rfl, rfl⟩
    obtain ⟨unit, single⟩ : ∃ unit, codeUnits c.toNat = [unit] := by
      rcases special with rfl | rfl <;> exact ⟨_, rfl⟩
    rw [single]
    exact .named ((named unit).mpr single.symm)

/-! ## Text literals -/

/-- The characters inside a text literal are read as code units, up to a rest behind the closing
quote. -/
inductive Inside : List Char → List Nat → List Char → Prop where
  | close {rest : List Char} : Inside ('\'' :: rest) [] rest
  | character {c : Char} {behind rest : List Char} {units : List Nat}
    (plain : c ≠ '\'' ∧ c ≠ '\\' ∧ c ≠ '\n' ∧ c ≠ '\r') (further : Inside behind units rest) :
    Inside (c :: behind) (codeUnits c.toNat ++ units) rest
  | escape {behind middle rest : List Char} {first units : List Nat}
    (read : Escape behind first middle) (further : Inside middle units rest) :
    Inside ('\\' :: behind) (first ++ units) rest

/-- Characters begin with a text literal in single quotes. -/
def TextLiteral (cs : List Char) (units : List Nat) (rest : List Char) : Prop :=
  ∃ behind, cs = '\'' :: behind ∧ Inside behind units rest

theorem inside_close_iff {behind rest : List Char} {units : List Nat} :
    Inside ('\'' :: behind) units rest ↔ units = [] ∧ rest = behind := by
  constructor
  · intro read
    generalize whole : '\'' :: behind = cs at read
    cases read with
    | close => exact ⟨rfl, (List.cons.inj whole).2.symm⟩
    | character plain => exact absurd (List.cons.inj whole).1.symm plain.1
    | escape => exact absurd (List.cons.inj whole).1 (by decide)
  · rintro ⟨rfl, rfl⟩
    exact .close

/-- An escaped character is read as the character, unless it is a line feed or a carriage
return. -/
theorem inside_escape_iff (c : Char) {behind rest : List Char} {units : List Nat} :
    Inside (escape c ++ behind) units rest ↔
      (c ≠ '\n' ∧ c ≠ '\r') ∧
        ∃ further, units = codeUnits c.toNat ++ further ∧ Inside behind further rest := by
  rw [escape]
  split_ifs with special <;> simp only [Bool.or_eq_true, decide_eq_true_eq] at special
  · have plain : c ≠ '\n' ∧ c ≠ '\r' := by rcases special with rfl | rfl <;> decide
    constructor
    · intro read
      generalize whole : ['\\', c] ++ behind = cs at read
      cases read with
      | close => exact absurd (List.cons.inj whole).1 (by decide)
      | character plain => exact absurd (List.cons.inj whole).1.symm plain.2.1
      | escape read further =>
        obtain rfl := (List.cons.inj whole).2
        obtain ⟨rfl, rfl⟩ := (escape_special_iff special).mp read
        exact ⟨plain, _, rfl, further⟩
    · rintro ⟨-, further, rfl, read⟩
      exact .escape ((escape_special_iff special).mpr ⟨rfl, rfl⟩) read
  · rw [not_or] at special
    constructor
    · intro read
      generalize whole : [c] ++ behind = cs at read
      cases read with
      | close => exact absurd (List.cons.inj whole).1 special.2
      | character plain further =>
        obtain ⟨rfl, rfl⟩ := List.cons.inj whole
        exact ⟨plain.2.2, _, rfl, further⟩
      | escape => exact absurd (List.cons.inj whole).1 special.1
    · rintro ⟨plain, further, rfl, read⟩
      exact .character ⟨special.2, special.1, plain⟩ read

/-- Neither a line feed nor a carriage return stands among the characters. -/
def Unbroken (cs : List Char) : Prop := '\n' ∉ cs ∧ '\r' ∉ cs

theorem unbroken_cons {c : Char} {rest : List Char} :
    Unbroken (c :: rest) ↔ (c ≠ '\n' ∧ c ≠ '\r') ∧ Unbroken rest := by
  simp only [Unbroken, List.mem_cons, not_or]
  constructor
  · rintro ⟨⟨feed, feeds⟩, return', returns⟩
    exact ⟨⟨Ne.symm feed, Ne.symm return'⟩, feeds, returns⟩
  · rintro ⟨⟨feed, return'⟩, feeds, returns⟩
    exact ⟨⟨Ne.symm feed, feeds⟩, Ne.symm return', returns⟩

theorem inside_escaped_iff (cs : List Char) {behind rest : List Char} {units : List Nat} :
    Inside (cs.flatMap escape ++ '\'' :: behind) units rest ↔
      Unbroken cs ∧ units = value cs ∧ rest = behind := by
  induction cs generalizing units with
  | nil => simpa [Unbroken, value] using inside_close_iff
  | cons c cs ih =>
    rw [List.flatMap_cons, List.append_assoc, inside_escape_iff, unbroken_cons]
    simp only [ih]
    constructor
    · rintro ⟨plain, _, rfl, unbroken, rfl, rfl⟩
      exact ⟨⟨plain, unbroken⟩, rfl, rfl⟩
    · rintro ⟨⟨plain, unbroken⟩, rfl, rfl⟩
      exact ⟨plain, _, rfl, unbroken, rfl, rfl⟩

/-- The literal of a text is read as the text up to its end, and in no other way. If a line ends
in the text, the literal cannot be read. -/
theorem textLiteral_encode_iff {cs behind rest : List Char} {units : List Nat} :
    TextLiteral (encode cs ++ behind) units rest ↔
      Unbroken cs ∧ units = value cs ∧ rest = behind := by
  rw [← inside_escaped_iff, TextLiteral]
  simp only [encode, List.cons_append, List.append_assoc, List.nil_append, List.cons.injEq,
    true_and, exists_eq_left']

/-! ## Property names -/

/-- Characters begin with a property name: a text literal or an identifier. -/
inductive PropertyName : List Char → List Nat → List Char → Prop where
  | literal {cs rest : List Char} {units : List Nat} (read : TextLiteral cs units rest) :
    PropertyName cs units rest
  | identifier {name rest : List Char} (proper : isIdentifier name = true)
    (ends : ∀ c ∈ rest.head?, isNamePart c = false) :
    PropertyName (name ++ rest) (value name) rest

theorem isBare_iff {cs : List Char} :
    isBare cs = true ↔ ∃ name feed, cs = name ++ feed ∧ isIdentifier name = true ∧
      (feed = [] ∨ feed = ['\n']) := by
  refine ⟨Literal.exists_identifier_of_isBare, ?_⟩
  rintro ⟨name, feed, rfl, proper, short⟩
  cases name with
  | nil => cases proper
  | cons c rest =>
    simp only [isIdentifier, Bool.and_eq_true, List.all_eq_true] at proper
    have left : (rest ++ feed).dropWhile isNamePart = feed := by
      rw [List.dropWhile_append_of_pos proper.2]
      rcases short with rfl | rfl <;> rfl
    rw [List.cons_append, isBare]
    simpa [left, proper.1] using short

theorem unbroken_of_isIdentifier {name : List Char} (proper : isIdentifier name = true) :
    Unbroken name := by
  have part := Literal.isNamePart_of_isIdentifier proper
  exact ⟨fun member => absurd (part _ member) (by decide),
    fun member => absurd (part _ member) (by decide)⟩

/-- An identifier is read as its name up to its end, and in no other way. -/
theorem propertyName_identifier_iff {name behind rest : List Char} {units : List Nat}
    (proper : isIdentifier name = true) (ends : ∀ c ∈ behind.head?, isNamePart c = false) :
    PropertyName (name ++ behind) units rest ↔ units = value name ∧ rest = behind := by
  constructor
  · intro read
    generalize whole : name ++ behind = cs at read
    cases read with
    | literal read =>
      obtain ⟨behind', rfl, -⟩ := read
      cases name with
      | nil => cases proper
      | cons c rest =>
        obtain ⟨rfl, -⟩ := List.cons.inj whole
        rw [isIdentifier, Bool.and_eq_true] at proper
        exact absurd proper.1 (by decide)
    | identifier proper' ends' =>
      obtain ⟨rfl, rfl⟩ := Literal.identifier_append_inj proper proper' ends ends' whole
      exact ⟨rfl, rfl⟩
  · rintro ⟨rfl, rfl⟩
    exact .identifier proper ends

/-- A literal that names a property is read as a literal. -/
theorem propertyName_encode_iff {cs behind rest : List Char} {units : List Nat} :
    PropertyName (encode cs ++ behind) units rest ↔
      Unbroken cs ∧ units = value cs ∧ rest = behind := by
  rw [← textLiteral_encode_iff]
  constructor
  · intro read
    generalize whole : encode cs ++ behind = text at read
    cases read with
    | literal read => exact read
    | identifier proper => exact absurd whole (Literal.encode_append_ne_identifier proper)
  · exact .literal

/-- What is read is neither more nor less than the text exactly if the text is unbroken. -/
theorem propertyName_iff_unbroken (text : String) {behind : List Char}
    (ends : ∀ c ∈ behind.head?, isNamePart c = false) :
    (∀ units rest, PropertyName ((propertyName text).toList ++ behind) units rest ↔
      units = value text.toList ∧ rest = behind) ↔ Unbroken text.toList := by
  by_cases bare : isBare text.toList = true
  · have spelled : propertyName text = text := if_pos bare
    obtain ⟨name, feed, split, proper, short⟩ := isBare_iff.mp bare
    rw [spelled, split]
    rcases short with rfl | rfl
    · rw [List.append_nil]
      exact iff_of_true (fun _ _ => propertyName_identifier_iff proper ends)
        (unbroken_of_isIdentifier proper)
    · -- The name is read up to the line feed, which is left.
      refine iff_of_false (fun read => ?_) fun unbroken => unbroken.1 (by simp)
      have whole := (read _ _).mpr ⟨rfl, rfl⟩
      rw [List.append_assoc, propertyName_identifier_iff proper (by simp; decide)] at whole
      exact absurd whole.2 (by simp)
  · have spelled : (propertyName text).toList = encode text.toList := by
      rw [propertyName, if_neg bare, quote, String.toList_ofList]
    simp only [spelled, propertyName_encode_iff]
    exact ⟨fun read => ((read _ _).mpr ⟨rfl, rfl⟩).1,
      fun unbroken _ _ => ⟨And.right, fun same => ⟨unbroken, same⟩⟩⟩

/-- A name is written bare exactly if it is an identifier, except that a line feed behind an
identifier goes unnoticed. -/
theorem propertyName_eq_iff (text : String) :
    propertyName text = (if isIdentifier text.toList then text else quote text) ↔
      ¬ ∃ name, isIdentifier name = true ∧ text.toList = name ++ ['\n'] := by
  by_cases proper : isIdentifier text.toList = true
  · have bare : isBare text.toList = true := isBare_iff.mpr ⟨_, [], by simp, proper, .inl rfl⟩
    rw [propertyName, if_pos bare, if_pos proper]
    refine iff_of_true rfl ?_
    rintro ⟨name, -, split⟩
    exact (unbroken_of_isIdentifier proper).1 (by simp [split])
  · rw [propertyName, if_neg proper]
    by_cases bare : isBare text.toList = true
    · obtain ⟨name, feed, split, proper', short⟩ := isBare_iff.mp bare
      obtain rfl : feed = ['\n'] := by
        refine short.resolve_left ?_
        rintro rfl
        exact proper (by rwa [split, List.append_nil])
      rw [if_pos bare]
      refine iff_of_false (fun same => ?_) (not_not.mpr ⟨name, proper', split⟩)
      have literal : text.toList = encode text.toList := by
        have characters := congrArg String.toList same
        rwa [quote, String.toList_ofList] at characters
      refine @Literal.encode_append_ne_identifier text.toList name [] ['\n'] proper' ?_
      rw [List.append_nil, ← literal, split]
    · rw [if_neg bare]
      refine iff_of_true rfl ?_
      rintro ⟨name, proper', split⟩
      exact bare (isBare_iff.mpr ⟨name, _, split, proper', .inr rfl⟩)

/-- A quoted text is one literal whose value is the text, and a property name is one token that
denotes the text, for every text without a line feed and a carriage return and for no other one.
The literal of a text with one of them cannot be read at all, whatever stands behind it. The
identifiers are written bare and the other names as literals, but for an identifier with a line
feed behind it: this is written bare as well, and the line feed is lost to the reader. -/
theorem denotes_iff_unbroken (text : String) (behind : List Char) :
    (∀ units rest, TextLiteral ((quote text).toList ++ behind) units rest ↔
      Unbroken text.toList ∧ units = value text.toList ∧ rest = behind) ∧
    (∀ other rest, TextLiteral ((quote text).toList ++ behind) (value other.toList) rest →
      other = text) ∧
    ((∀ c ∈ behind.head?, c ∈ [' ', '?', ':']) →
      ((∀ units rest, PropertyName ((propertyName text).toList ++ behind) units rest ↔
        units = value text.toList ∧ rest = behind) ↔ Unbroken text.toList)) ∧
    (propertyName text = (if isIdentifier text.toList then text else quote text) ↔
      ¬ ∃ name, isIdentifier name = true ∧ text.toList = name ++ ['\n']) := by
  have literal : ∀ units rest, TextLiteral ((quote text).toList ++ behind) units rest ↔
      Unbroken text.toList ∧ units = value text.toList ∧ rest = behind := by
    intro units rest
    rw [quote, String.toList_ofList, textLiteral_encode_iff]
  refine ⟨literal, fun other rest read => ?_, fun ends => ?_, propertyName_eq_iff text⟩
  · exact String.toList_injective (value_injective ((literal _ _).mp read).2.1)
  · have outside : ∀ c ∈ [' ', '?', ':'], isNamePart c = false := by simp [isNamePart]
    exact propertyName_iff_unbroken text fun c first => outside c (ends c first)

/-- A text with both characters that are escaped, with a colon behind its literal. -/
theorem denotes_escaped :
    (∀ c ∈ [':'].head?, c ∈ [' ', '?', ':']) ∧ quote "it's \\" = "'it\\'s \\\\'" ∧
      TextLiteral ("'it\\'s \\\\'".toList ++ [':']) (value "it's \\".toList) [':'] ∧
      PropertyName ("'it\\'s \\\\'".toList ++ [':']) (value "it's \\".toList) [':'] := by
  have ends : ∀ c ∈ [':'].head?, c ∈ [' ', '?', ':'] := by simp
  have unbroken : Unbroken "it's \\".toList := by unfold Unbroken; decide +kernel
  have quoted : quote "it's \\" = "'it\\'s \\\\'" := by decide +kernel
  have named : propertyName "it's \\" = "'it\\'s \\\\'" := by decide +kernel
  have denoted := denotes_iff_unbroken "it's \\" [':']
  refine ⟨ends, quoted, ?_, ?_⟩
  · rw [← quoted]
    exact (denoted.1 _ _).mpr ⟨unbroken, rfl, rfl⟩
  · rw [← named]
    exact ((denoted.2.2.1 ends).mpr unbroken _ _).mpr ⟨rfl, rfl⟩

/-- A line feed is written as it is: the literal cannot be read, and behind an identifier the
name is read without it. -/
theorem denotes_broken :
    quote "a\nb" = "'a\nb'" ∧ (¬ ∃ units rest, TextLiteral "'a\nb'".toList units rest) ∧
      propertyName "a\n" = "a\n" ∧ PropertyName "a\n".toList (value ['a']) ['\n'] ∧
      ¬ PropertyName "a\n".toList (value "a\n".toList) [] := by
  have ends : ∀ c ∈ ['\n'].head?, isNamePart c = false := by simp [isNamePart]
  refine ⟨by decide +kernel, ?_, by decide +kernel, ?_, ?_⟩
  · rintro ⟨units, rest, read⟩
    have literal : "'a\nb'".toList = encode ['a', '\n', 'b'] ++ [] := by decide +kernel
    rw [literal, textLiteral_encode_iff] at read
    exact read.1.1 (by decide)
  · exact @PropertyName.identifier ['a'] ['\n'] (by decide) ends
  · have split : "a\n".toList = ['a'] ++ ['\n'] := by decide +kernel
    rw [split, propertyName_identifier_iff (by decide) ends]
    exact fun read => absurd read.2 (by decide)

end TypeContracts.Token
