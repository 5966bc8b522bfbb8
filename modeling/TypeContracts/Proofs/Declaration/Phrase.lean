import TypeContracts.Proofs.Declaration.Literal

/-!
# The written types

The phrases in which types are written: a union of intersections of operands, where an
operand is an atom with array brackets behind it. Parentheses make any union an atom.
`Phrase.chars` says how a phrase is written.

No text is that of two phrases. The reason is local: behind a phrase stands only what cannot
belong to it (`PhraseSort.Ends`), so that a phrase can be told from what follows it
(`Phrase.determined`), and the first character of an atom tells its form
(`Phrase.form_lead`).
-/

set_option autoImplicit false

namespace TypeContracts

/-! ## Phrases and their text -/

/-- A name as types, parameters and keys bear it. -/
structure Identifier where
  chars : List Char
  proper : Literal.isIdentifier chars = true

theorem Identifier.ext {first second : Identifier} (same : first.chars = second.chars) :
    first = second := by
  cases first
  cases second
  cases same
  rfl

/-- The sorts of phrases. -/
inductive PhraseSort where
  | union
  | intersection
  | operand
  | atom
  | arguments
  | member
  | members

/-- The phrases of each sort. -/
inductive Phrase : PhraseSort → Type where
  | word (name : Identifier) : Phrase .atom
  | applied (name : Identifier) (inner : Phrase .arguments) : Phrase .atom
  | literal (value : String) : Phrase .atom
  | number (value : Int) : Phrase .atom
  | noMembers : Phrase .atom
  | object (inner : Phrase .members) : Phrase .atom
  | group (inner : Phrase .union) : Phrase .atom
  | operand (atom : Phrase .atom) (brackets : Nat) : Phrase .operand
  | factor (last : Phrase .operand) : Phrase .intersection
  | meet (first : Phrase .operand) (rest : Phrase .intersection) : Phrase .intersection
  | option (last : Phrase .intersection) : Phrase .union
  | either (first : Phrase .intersection) (rest : Phrase .union) : Phrase .union
  | lastArgument (last : Phrase .union) : Phrase .arguments
  | moreArguments (first : Phrase .union) (rest : Phrase .arguments) : Phrase .arguments
  | property (name : String) (type : Phrase .union) (isOptional isReadonly : Bool) :
    Phrase .member
  | index (key : Identifier) (argument result : Phrase .union) : Phrase .member
  | getter (key : Identifier) (argument result : Phrase .union) (isOptional : Bool) :
    Phrase .member
  | lastMember (last : Phrase .member) : Phrase .members
  | moreMembers (first : Phrase .member) (rest : Phrase .members) : Phrase .members

namespace Phrase

/-- Array brackets, one pair behind the other. -/
def bracketPairs : Nat → List Char
  | 0 => []
  | count + 1 => '[' :: ']' :: bracketPairs count

theorem bracketPairs_append (count : Nat) :
    bracketPairs count ++ ['[', ']'] = bracketPairs (count + 1) := by
  induction count with
  | zero => rfl
  | succ count ih => exact congrArg (fun rest => '[' :: ']' :: rest) ih

/-- The mark of an optional member. -/
def optionalMark (isOptional : Bool) : List Char := if isOptional then ['?'] else []

/-- The mark of a read-only property. -/
def readonlyMark (isReadonly : Bool) : List Char := if isReadonly then "readonly ".toList else []

/-- The characters of a phrase. -/
@[simp]
def chars : {sort : PhraseSort} → Phrase sort → List Char
  | _, .word name => name.chars
  | _, .applied name inner => name.chars ++ '<' :: (inner.chars ++ ['>'])
  | _, .literal value => Literal.encode value.toList
  | _, .number value => (toString value).toList
  | _, .noMembers => ['{', '}']
  | _, .object inner => '{' :: ' ' :: (inner.chars ++ [' ', '}'])
  | _, .group inner => '(' :: (inner.chars ++ [')'])
  | _, .operand atom brackets => atom.chars ++ bracketPairs brackets
  | _, .factor last => last.chars
  | _, .meet first rest => first.chars ++ ' ' :: '&' :: ' ' :: rest.chars
  | _, .option last => last.chars
  | _, .either first rest => first.chars ++ ' ' :: '|' :: ' ' :: rest.chars
  | _, .lastArgument last => last.chars
  | _, .moreArguments first rest => first.chars ++ ',' :: ' ' :: rest.chars
  | _, .property name type isOptional isReadonly =>
    readonlyMark isReadonly ++ ((Literal.propertyName name).toList ++
      (optionalMark isOptional ++ ':' :: ' ' :: (type.chars ++ [';'])))
  | _, .index key argument result =>
    '[' :: (key.chars ++ ':' :: ' ' :: (argument.chars ++
      ']' :: ':' :: ' ' :: (result.chars ++ [';'])))
  | _, .getter key argument result isOptional =>
    '[' :: (key.chars ++ ' ' :: 'i' :: 'n' :: ' ' :: (argument.chars ++
      ']' :: (optionalMark isOptional ++ ':' :: ' ' :: (result.chars ++ [';']))))
  | _, .lastMember last => last.chars
  | _, .moreMembers first rest => first.chars ++ ' ' :: rest.chars

end Phrase

/-! ## What stands behind a phrase -/

/-- The character closes a place in which a type stands. -/
def closesType (c : Char) : Bool := c = '>' || c = ',' || c = ']' || c = ';' || c = ')'

/-- What can stand behind a phrase of a sort. A phrase inside another ends where the outer one
can, or at a sign of the outer one. -/
inductive PhraseSort.Ends : PhraseSort → List Char → Prop where
  | nothing : Ends .union []
  | closed {c : Char} (rest : List Char) (closes : closesType c = true) : Ends .union (c :: rest)
  | union {cs : List Char} (outer : Ends .union cs) : Ends .intersection cs
  | bar (rest : List Char) : Ends .intersection (' ' :: '|' :: ' ' :: rest)
  | intersection {cs : List Char} (outer : Ends .intersection cs) : Ends .operand cs
  | ampersand (rest : List Char) : Ends .operand (' ' :: '&' :: ' ' :: rest)
  | operand {cs : List Char} (outer : Ends .operand cs) : Ends .atom cs
  | bracket (rest : List Char) : Ends .atom ('[' :: ']' :: rest)
  | angle (rest : List Char) : Ends .arguments ('>' :: rest)
  | member (rest : List Char) : Ends .member rest
  | brace (rest : List Char) : Ends .members (' ' :: '}' :: rest)

namespace PhraseSort.Ends

open Literal

/-- The first character behind an atom, if there is one. -/
theorem head?_atom {cs : List Char} (ends : Ends .atom cs) :
    ∀ c ∈ cs.head?, closesType c = true ∨ c = ' ' ∨ c = '[' := by
  intro c first
  cases ends with
  | bracket rest =>
    cases first
    exact .inr (.inr rfl)
  | operand outer =>
    cases outer with
    | ampersand rest =>
      cases first
      exact .inr (.inl rfl)
    | intersection outer =>
      cases outer with
      | bar rest =>
        cases first
        exact .inr (.inl rfl)
      | union outer =>
        cases outer with
        | nothing => cases first
        | closed rest closes =>
          cases first
          exact .inl closes

theorem closesType_cases {c : Char} (closes : closesType c = true) :
    c = '>' ∨ c = ',' ∨ c = ']' ∨ c = ';' ∨ c = ')' := by
  simpa only [closesType, Bool.or_eq_true, decide_eq_true_eq, or_assoc] using closes

/-- An atom is followed by no part of a name and by no digit. -/
theorem outside_atom {cs : List Char} (ends : Ends .atom cs) :
    ∀ c ∈ cs.head?, isNamePart c = false ∧ c.isDigit = false ∧ c ≠ '<' := by
  intro c first
  rcases ends.head?_atom c first with closes | rfl | rfl
  · rcases closesType_cases closes with rfl | rfl | rfl | rfl | rfl <;> decide
  · decide
  · decide

/-- Brackets do not stand behind an operand. -/
theorem ne_bracket {cs rest : List Char} (ends : Ends .operand cs) : cs ≠ '[' :: rest := by
  rintro rfl
  cases ends with
  | intersection outer =>
    cases outer with
    | union outer =>
      cases outer with
      | closed _ closes => exact absurd closes (by decide)

/-- An ampersand does not stand behind an intersection. -/
theorem ne_ampersand {cs rest : List Char} (ends : Ends .intersection cs) :
    cs ≠ ' ' :: '&' :: rest := by
  rintro rfl
  cases ends with
  | union outer =>
    cases outer with
    | closed _ closes => exact absurd closes (by decide)

/-- A bar does not stand behind a union. -/
theorem ne_blank {cs rest : List Char} (ends : Ends .union cs) : cs ≠ ' ' :: rest := by
  rintro rfl
  cases ends with
  | closed _ closes => exact absurd closes (by decide)

end PhraseSort.Ends

namespace Phrase

open Literal

/-! ## How an atom and a member begin -/

/-- The forms of atoms. -/
inductive Form where
  | word
  | literal
  | number
  | object
  | group
deriving DecidableEq

/-- The form that a character begins. -/
def lead (c : Char) : Form :=
  if isNameStart c then .word
  else if c = '\'' then .literal
  else if c = '{' then .object
  else if c = '(' then .group
  else .number

/-- The form of an atom. -/
def form : Phrase .atom → Form
  | .word _ => .word
  | .applied _ _ => .word
  | .literal _ => .literal
  | .number _ => .number
  | .noMembers => .object
  | .object _ => .object
  | .group _ => .group

theorem lead_of_isIdentifier {cs : List Char} (proper : isIdentifier cs = true)
    (behind : List Char) : ∃ c rest, cs ++ behind = c :: rest ∧ lead c = .word := by
  cases cs with
  | nil => cases proper
  | cons c rest =>
    simp only [isIdentifier, Bool.and_eq_true] at proper
    exact ⟨c, rest ++ behind, rfl, by rw [lead, if_pos proper.1]⟩

theorem lead_of_isDigit {c : Char} (digit : c.isDigit = true) : lead c = .number := by
  have range : 48 ≤ c.toNat ∧ c.toNat ≤ 57 := Char.isDigit_iff_toNat.mp digit
  have other : ∀ d : Char, ¬(48 ≤ d.toNat ∧ d.toNat ≤ 57) → c ≠ d := by
    rintro d outside rfl
    exact outside range
  have unnamed : isNameStart c = false := by
    have letter : c.isAlpha = false := by
      rw [Bool.eq_false_iff]
      intro alphabetic
      change (decide (65 ≤ c.val ∧ c.val ≤ 90) ||
        decide (97 ≤ c.val) && decide (c.val ≤ 122)) = true at alphabetic
      simp only [Bool.or_eq_true, Bool.and_eq_true, decide_eq_true_eq,
        UInt32.le_iff_toNat_le] at alphabetic
      change (65 ≤ c.toNat ∧ c.toNat ≤ 90) ∨ (97 ≤ c.toNat ∧ c.toNat ≤ 122) at alphabetic
      omega
    simp only [isNameStart, letter, Bool.false_or, Bool.or_eq_false_iff, decide_eq_false_iff_not]
    exact ⟨other '_' (by decide), other '$' (by decide)⟩
  rw [lead, unnamed, if_neg (by decide), if_neg (other '\'' (by decide)),
    if_neg (other '{' (by decide)), if_neg (other '(' (by decide))]

/-- The first character of an atom tells its form. -/
theorem form_lead (atom : Phrase .atom) (behind : List Char) :
    ∃ c rest, atom.chars ++ behind = c :: rest ∧ lead c = atom.form := by
  cases atom with
  | word name => exact lead_of_isIdentifier name.proper behind
  | applied name inner =>
    rw [chars, List.append_assoc]
    exact lead_of_isIdentifier name.proper _
  | literal value => exact ⟨'\'', _, rfl, (by decide : lead '\'' = .literal)⟩
  | number value =>
    rw [chars, toList_toString]
    cases value with
    | ofNat n =>
      obtain ⟨proper, digital⟩ := exists_digits n
      obtain ⟨c, rest, split⟩ := List.exists_cons_of_ne_nil proper
      refine ⟨c, rest ++ behind, ?_, lead_of_isDigit (digital c (split ▸ List.mem_cons_self))⟩
      simp only [split, List.cons_append]
    | negSucc n => exact ⟨'-', _, rfl, (by decide : lead '-' = .number)⟩
  | noMembers => exact ⟨'{', _, rfl, (by decide : lead '{' = .object)⟩
  | object inner => exact ⟨'{', _, rfl, (by decide : lead '{' = .object)⟩
  | group inner => exact ⟨'(', _, rfl, (by decide : lead '(' = .group)⟩

/-- Atoms that begin alike have the same form. -/
theorem form_eq {atom atom' : Phrase .atom} {behind behind' : List Char}
    (same : atom.chars ++ behind = atom'.chars ++ behind') : atom.form = atom'.form := by
  obtain ⟨c, rest, begins, leads⟩ := atom.form_lead behind
  obtain ⟨c', rest', begins', leads'⟩ := atom'.form_lead behind'
  rw [begins, begins', List.cons.injEq] at same
  rw [← leads, ← leads', same.1]

/-- A property begins with no punctuation other than a quote. -/
theorem property_append_ne {c : Char} (unnamed : isNameStart c = false) (unquoted : c ≠ '\'')
    (name : String) (type : Phrase .union) (isOptional isReadonly : Bool)
    (behind rest : List Char) :
    (property name type isOptional isReadonly).chars ++ behind ≠ c :: rest := by
  intro same
  rw [chars, List.append_assoc, List.append_assoc] at same
  cases isReadonly with
  | true =>
    obtain rfl : 'r' = c := (List.cons.inj same).1
    exact absurd unnamed (by decide)
  | false => exact propertyName_append_ne unnamed unquoted name _ _ same

/-- A list of members begins with no brace. -/
theorem members_ne_brace (list : Phrase .members) (behind rest : List Char) :
    list.chars ++ behind ≠ '}' :: rest := by
  have single : ∀ (member : Phrase .member) (behind : List Char),
      member.chars ++ behind ≠ '}' :: rest := by
    intro member behind same
    cases member with
    | index key argument result => exact absurd (List.cons.inj same).1 (by decide)
    | getter key argument result isOptional => exact absurd (List.cons.inj same).1 (by decide)
    | property name type isOptional isReadonly =>
      exact property_append_ne (by decide) (by decide) name type isOptional isReadonly _ _ same
  cases list with
  | lastMember last => exact single last behind
  | moreMembers first others =>
    rw [chars, List.append_assoc]
    exact single first _

/-! ## Each phrase ends in one place -/

/-- Array brackets end at the first character that opens no further pair. -/
theorem bracketPairs_append_inj {count count' : Nat} {behind behind' : List Char}
    (ends : PhraseSort.Ends .operand behind) (ends' : PhraseSort.Ends .operand behind')
    (same : bracketPairs count ++ behind = bracketPairs count' ++ behind') :
    count = count' ∧ behind = behind' := by
  induction count generalizing count' with
  | zero =>
    cases count' with
    | zero => exact ⟨rfl, same⟩
    | succ count' => exact absurd same ends.ne_bracket
  | succ count ih =>
    cases count' with
    | zero => exact absurd same.symm ends'.ne_bracket
    | succ count' =>
      obtain ⟨rfl, rest⟩ := ih (List.cons.inj (List.cons.inj same).2).2
      exact ⟨rfl, rest⟩

theorem ends_bracketPairs (count : Nat) {behind : List Char}
    (ends : PhraseSort.Ends .operand behind) :
    PhraseSort.Ends .atom (bracketPairs count ++ behind) := by
  cases count with
  | zero => exact .operand ends
  | succ count => exact .bracket _

/-- The mark of an optional member and the colon behind it. -/
theorem optionalMark_append_inj {isOptional isOptional' : Bool} {behind behind' : List Char}
    (same : optionalMark isOptional ++ ':' :: behind = optionalMark isOptional' ++ ':' :: behind') :
    isOptional = isOptional' ∧ behind = behind' := by
  cases isOptional <;> cases isOptional'
  case false.true => exact absurd (List.cons.inj same).1 (by decide)
  case true.false => exact absurd (List.cons.inj same).1 (by decide)
  case false.false => exact ⟨rfl, (List.cons.inj same).2⟩
  case true.true => exact ⟨rfl, (List.cons.inj (List.cons.inj same).2).2⟩

theorem endsPropertyName_optionalMark (isOptional : Bool) (behind : List Char) :
    ∀ c ∈ (optionalMark isOptional ++ ':' :: behind).head?, endsPropertyName c = true := by
  intro c first
  cases isOptional <;> cases first <;> decide

/-! ## Phrases and what stands behind them -/

/-- The phrase can be told from what stands behind it: whatever phrase of its sort is written in
its place, the phrase and the rest of the text are the same. -/
def Determined {sort : PhraseSort} (first : Phrase sort) : Prop :=
  ∀ (second : Phrase sort) {behind behind' : List Char}, sort.Ends behind → sort.Ends behind' →
    first.chars ++ behind = second.chars ++ behind' → first = second ∧ behind = behind'

namespace Determined

/-- The next character tells a word from a name that is applied. -/
theorem word (name : Identifier) : Determined (word name) := by
  intro second behind behind' ends ends' same
  have forms := form_eq same
  cases second with
  | word name' =>
    obtain ⟨equal, rest⟩ := identifier_append_inj name.proper name'.proper
      (fun c next => (ends.outside_atom c next).1) (fun c next => (ends'.outside_atom c next).1)
      same
    exact ⟨congrArg _ (Identifier.ext equal), rest⟩
  | applied name' inner' =>
    rw [chars, chars, List.append_assoc] at same
    obtain ⟨_, rest⟩ := identifier_append_inj name.proper name'.proper
      (fun c next => (ends.outside_atom c next).1) (by simp [isNamePart]) same
    exact absurd rfl (ends.outside_atom '<' (rest ▸ rfl)).2.2
  | _ => cases forms

theorem applied (name : Identifier) {inner : Phrase .arguments} (ih : inner.Determined) :
    Determined (applied name inner) := by
  intro second behind behind' ends ends' same
  have forms := form_eq same
  cases second with
  | word name' =>
    rw [chars, chars, List.append_assoc] at same
    obtain ⟨_, rest⟩ := identifier_append_inj name.proper name'.proper
      (by simp [isNamePart]) (fun c next => (ends'.outside_atom c next).1) same
    exact absurd rfl (ends'.outside_atom '<' (rest ▸ rfl)).2.2
  | applied name' inner' =>
    simp only [chars, List.append_assoc, List.cons_append, List.nil_append] at same
    obtain ⟨equal, further⟩ := identifier_append_inj name.proper name'.proper
      (by simp [isNamePart]) (by simp [isNamePart]) same
    obtain ⟨rfl, rest⟩ := ih inner' (.angle _) (.angle _) (List.cons.inj further).2
    exact ⟨congrArg (Phrase.applied · inner) (Identifier.ext equal), (List.cons.inj rest).2⟩
  | _ => cases forms

theorem literal (value : String) : Determined (literal value) := by
  intro second behind behind' ends ends' same
  have forms := form_eq same
  cases second with
  | literal value' =>
    obtain ⟨equal, rest⟩ := encode_append_inj same
    exact ⟨congrArg _ (String.toList_injective equal), rest⟩
  | _ => cases forms

theorem number (value : Int) : Determined (number value) := by
  intro second behind behind' ends ends' same
  have forms := form_eq same
  cases second with
  | number value' =>
    obtain ⟨equal, rest⟩ := toList_toString_append_inj
      (fun c next => (ends.outside_atom c next).2.1)
      (fun c next => (ends'.outside_atom c next).2.1) same
    exact ⟨congrArg _ equal, rest⟩
  | _ => cases forms

/-- The character behind the brace tells whether there are members. -/
theorem noMembers : Determined .noMembers := by
  intro second behind behind' ends ends' same
  have forms := form_eq same
  cases second with
  | noMembers => exact ⟨rfl, (List.cons.inj (List.cons.inj same).2).2⟩
  | object inner' =>
    exact absurd (List.cons.inj (List.cons.inj same).2).1 (by decide)
  | _ => cases forms

theorem object {inner : Phrase .members} (ih : inner.Determined) : Determined (object inner) := by
  intro second behind behind' ends ends' same
  have forms := form_eq same
  cases second with
  | noMembers => exact absurd (List.cons.inj (List.cons.inj same).2).1 (by decide)
  | object inner' =>
    simp only [chars, List.append_assoc, List.cons_append, List.nil_append] at same
    obtain ⟨rfl, rest⟩ := ih inner' (.brace _) (.brace _)
      (List.cons.inj (List.cons.inj same).2).2
    exact ⟨rfl, (List.cons.inj (List.cons.inj rest).2).2⟩
  | _ => cases forms

theorem group {inner : Phrase .union} (ih : inner.Determined) : Determined (group inner) := by
  intro second behind behind' ends ends' same
  have forms := form_eq same
  cases second with
  | group inner' =>
    simp only [chars, List.append_assoc, List.cons_append, List.nil_append] at same
    obtain ⟨rfl, rest⟩ := ih inner' (.closed _ (by decide)) (.closed _ (by decide))
      (List.cons.inj same).2
    exact ⟨rfl, (List.cons.inj rest).2⟩
  | _ => cases forms

/-- Brackets are counted up to what cannot be a bracket. -/
theorem operand {atom : Phrase .atom} (ih : atom.Determined) (brackets : Nat) :
    Determined (operand atom brackets) := by
  intro second behind behind' ends ends' same
  cases second with
  | operand atom' brackets' =>
    rw [chars, chars, List.append_assoc, List.append_assoc] at same
    obtain ⟨rfl, further⟩ :=
      ih atom' (ends_bracketPairs brackets ends) (ends_bracketPairs brackets' ends') same
    obtain ⟨rfl, rest⟩ := bracketPairs_append_inj ends ends' further
    exact ⟨rfl, rest⟩

/-- The character behind an operand tells whether another one follows. -/
theorem factor {last : Phrase .operand} (ih : last.Determined) : Determined (factor last) := by
  intro second behind behind' ends ends' same
  cases second with
  | factor last' =>
    obtain ⟨rfl, rest⟩ := ih last' (.intersection ends) (.intersection ends') same
    exact ⟨rfl, rest⟩
  | meet first' rest' =>
    rw [chars, chars, List.append_assoc] at same
    obtain ⟨_, rest⟩ := ih first' (.intersection ends) (.ampersand _) same
    exact absurd rest ends.ne_ampersand

theorem meet {first : Phrase .operand} {others : Phrase .intersection}
    (ihFirst : first.Determined) (ihOthers : others.Determined) :
    Determined (meet first others) := by
  intro second behind behind' ends ends' same
  cases second with
  | factor last' =>
    rw [chars, chars, List.append_assoc] at same
    obtain ⟨_, rest⟩ := ihFirst last' (.ampersand _) (.intersection ends') same
    exact absurd rest.symm ends'.ne_ampersand
  | meet first' others' =>
    simp only [chars, List.append_assoc, List.cons_append] at same
    obtain ⟨rfl, further⟩ := ihFirst first' (.ampersand _) (.ampersand _) same
    obtain ⟨rfl, rest⟩ := ihOthers others' ends ends' (by simpa using further)
    exact ⟨rfl, rest⟩

/-- The character behind an intersection tells whether another one follows. -/
theorem option {last : Phrase .intersection} (ih : last.Determined) : Determined (option last) := by
  intro second behind behind' ends ends' same
  cases second with
  | option last' =>
    obtain ⟨rfl, rest⟩ := ih last' (.union ends) (.union ends') same
    exact ⟨rfl, rest⟩
  | either first' others' =>
    rw [chars, chars, List.append_assoc] at same
    obtain ⟨_, rest⟩ := ih first' (.union ends) (.bar _) same
    exact absurd rest ends.ne_blank

theorem either {first : Phrase .intersection} {others : Phrase .union}
    (ihFirst : first.Determined) (ihOthers : others.Determined) :
    Determined (either first others) := by
  intro second behind behind' ends ends' same
  cases second with
  | option last' =>
    rw [chars, chars, List.append_assoc] at same
    obtain ⟨_, rest⟩ := ihFirst last' (.bar _) (.union ends') same
    exact absurd rest.symm ends'.ne_blank
  | either first' others' =>
    simp only [chars, List.append_assoc, List.cons_append] at same
    obtain ⟨rfl, further⟩ := ihFirst first' (.bar _) (.bar _) same
    obtain ⟨rfl, rest⟩ := ihOthers others' ends ends' (by simpa using further)
    exact ⟨rfl, rest⟩

/-- The character behind an argument tells whether another one follows. -/
theorem lastArgument {last : Phrase .union} (ih : last.Determined) :
    Determined (lastArgument last) := by
  intro second behind behind' ends ends' same
  cases ends
  cases second with
  | lastArgument last' =>
    cases ends'
    obtain ⟨rfl, rest⟩ := ih last' (.closed _ (by decide)) (.closed _ (by decide)) same
    exact ⟨rfl, rest⟩
  | moreArguments first' others' =>
    rw [chars, chars, List.append_assoc] at same
    obtain ⟨_, rest⟩ := ih first' (.closed _ (by decide)) (.closed _ (by decide)) same
    exact absurd (List.cons.inj rest).1 (by decide)

theorem moreArguments {first : Phrase .union} {others : Phrase .arguments}
    (ihFirst : first.Determined) (ihOthers : others.Determined) :
    Determined (moreArguments first others) := by
  intro second behind behind' ends ends' same
  cases second with
  | lastArgument last' =>
    cases ends'
    rw [chars, chars, List.append_assoc] at same
    obtain ⟨_, rest⟩ := ihFirst last' (.closed _ (by decide)) (.closed _ (by decide)) same
    exact absurd (List.cons.inj rest).1 (by decide)
  | moreArguments first' others' =>
    simp only [chars, List.append_assoc, List.cons_append] at same
    obtain ⟨rfl, further⟩ := ihFirst first' (.closed _ (by decide)) (.closed _ (by decide)) same
    obtain ⟨rfl, rest⟩ := ihOthers others' ends ends' (by simpa using further)
    exact ⟨rfl, rest⟩

/-- A property starts with another character than a signature, and its name ends where a colon
or the mark of an optional member stands. -/
theorem property (name : String) {type : Phrase .union} (ih : type.Determined)
    (isOptional isReadonly : Bool) :
    Determined (property name type isOptional isReadonly) := by
  intro second behind behind' ends ends' same
  cases second with
  | property name' type' isOptional' isReadonly' =>
    simp only [chars, List.append_assoc, List.cons_append, List.nil_append] at same
    have marks := endsPropertyName_optionalMark isOptional
    have marks' := endsPropertyName_optionalMark isOptional'
    cases isReadonly <;> cases isReadonly' <;>
      simp only [readonlyMark, if_true, Bool.false_eq_true, if_false, List.nil_append] at same
    case false.true => exact absurd same.symm (readonly_append_ne_propertyName (marks _))
    case true.false => exact absurd same (readonly_append_ne_propertyName (marks' _))
    case' true.true => replace same := List.append_cancel_left same
    all_goals
      obtain ⟨rfl, marked⟩ := toList_propertyName_append_inj (marks _) (marks' _) same
      obtain ⟨rfl, typed⟩ := optionalMark_append_inj marked
      obtain ⟨rfl, rest⟩ :=
        ih type' (.closed _ (by decide)) (.closed _ (by decide)) (List.cons.inj typed).2
      exact ⟨rfl, (List.cons.inj rest).2⟩
  | index key' argument' result' =>
    exact absurd same (property_append_ne (by decide) (by decide) _ _ _ _ _ _)
  | getter key' argument' result' isOptional' =>
    exact absurd same (property_append_ne (by decide) (by decide) _ _ _ _ _ _)

/-- The character behind the name of the key tells an index signature from a getter. -/
theorem index (key : Identifier) {argument result : Phrase .union}
    (ihArgument : argument.Determined) (ihResult : result.Determined) :
    Determined (index key argument result) := by
  intro second behind behind' ends ends' same
  cases second with
  | property name' type' isOptional' isReadonly' =>
    exact absurd same.symm (property_append_ne (by decide) (by decide) _ _ _ _ _ _)
  | index key' argument' result' =>
    simp only [chars, List.append_assoc, List.cons_append, List.nil_append] at same
    obtain ⟨equal, keyed⟩ := identifier_append_inj key.proper key'.proper
      (by simp [isNamePart]) (by simp [isNamePart]) (List.cons.inj same).2
    obtain ⟨rfl, further⟩ := ihArgument argument' (.closed _ (by decide)) (.closed _ (by decide))
      (List.cons.inj (List.cons.inj keyed).2).2
    obtain ⟨rfl, rest⟩ := ihResult result' (.closed _ (by decide)) (.closed _ (by decide))
      (List.cons.inj (List.cons.inj (List.cons.inj further).2).2).2
    exact ⟨congrArg (Phrase.index · argument result) (Identifier.ext equal),
      (List.cons.inj rest).2⟩
  | getter key' argument' result' isOptional' =>
    simp only [chars, List.append_assoc, List.cons_append, List.nil_append] at same
    obtain ⟨_, keyed⟩ := identifier_append_inj key.proper key'.proper
      (by simp [isNamePart]) (by simp [isNamePart]) (List.cons.inj same).2
    exact absurd (List.cons.inj keyed).1 (by decide)

theorem getter (key : Identifier) {argument result : Phrase .union}
    (ihArgument : argument.Determined) (ihResult : result.Determined) (isOptional : Bool) :
    Determined (getter key argument result isOptional) := by
  intro second behind behind' ends ends' same
  cases second with
  | property name' type' isOptional' isReadonly' =>
    exact absurd same.symm (property_append_ne (by decide) (by decide) _ _ _ _ _ _)
  | index key' argument' result' =>
    simp only [chars, List.append_assoc, List.cons_append, List.nil_append] at same
    obtain ⟨_, keyed⟩ := identifier_append_inj key.proper key'.proper
      (by simp [isNamePart]) (by simp [isNamePart]) (List.cons.inj same).2
    exact absurd (List.cons.inj keyed).1 (by decide)
  | getter key' argument' result' isOptional' =>
    simp only [chars, List.append_assoc, List.cons_append, List.nil_append] at same
    obtain ⟨equal, keyed⟩ := identifier_append_inj key.proper key'.proper
      (by simp [isNamePart]) (by simp [isNamePart]) (List.cons.inj same).2
    obtain ⟨rfl, marked⟩ := ihArgument argument' (.closed _ (by decide)) (.closed _ (by decide))
      (List.cons.inj (List.cons.inj (List.cons.inj (List.cons.inj keyed).2).2).2).2
    obtain ⟨rfl, further⟩ := optionalMark_append_inj (List.cons.inj marked).2
    obtain ⟨rfl, rest⟩ := ihResult result' (.closed _ (by decide)) (.closed _ (by decide))
      (List.cons.inj further).2
    exact ⟨congrArg (Phrase.getter · argument result isOptional) (Identifier.ext equal),
      (List.cons.inj rest).2⟩

/-- A member does not start with the brace that closes the members. -/
theorem lastMember {last : Phrase .member} (ih : last.Determined) :
    Determined (lastMember last) := by
  intro second behind behind' ends ends' same
  cases ends
  cases second with
  | lastMember last' =>
    cases ends'
    obtain ⟨rfl, rest⟩ := ih last' (.member _) (.member _) same
    exact ⟨rfl, rest⟩
  | moreMembers first' others' =>
    simp only [chars, List.append_assoc, List.cons_append] at same
    obtain ⟨_, rest⟩ := ih first' (.member _) (.member _) same
    exact absurd (List.cons.inj rest).2.symm (members_ne_brace others' _ _)

theorem moreMembers {first : Phrase .member} {others : Phrase .members}
    (ihFirst : first.Determined) (ihOthers : others.Determined) :
    Determined (moreMembers first others) := by
  intro second behind behind' ends ends' same
  cases second with
  | lastMember last' =>
    cases ends'
    simp only [chars, List.append_assoc, List.cons_append] at same
    obtain ⟨_, rest⟩ := ihFirst last' (.member _) (.member _) same
    exact absurd (List.cons.inj rest).2 (members_ne_brace others _ _)
  | moreMembers first' others' =>
    simp only [chars, List.append_assoc, List.cons_append] at same
    obtain ⟨rfl, further⟩ := ihFirst first' (.member _) (.member _) same
    obtain ⟨rfl, rest⟩ := ihOthers others' ends ends' (List.cons.inj further).2
    exact ⟨rfl, rest⟩

end Determined

/-- A phrase can be told from what stands behind it. -/
theorem determined {sort : PhraseSort} (phrase : Phrase sort) : phrase.Determined := by
  induction phrase with
  | word name => exact .word name
  | applied name inner ih => exact .applied name ih
  | literal value => exact .literal value
  | number value => exact .number value
  | noMembers => exact .noMembers
  | object inner ih => exact .object ih
  | group inner ih => exact .group ih
  | operand atom brackets ih => exact .operand ih brackets
  | factor last ih => exact .factor ih
  | meet first others ihFirst ihOthers => exact .meet ihFirst ihOthers
  | option last ih => exact .option ih
  | either first others ihFirst ihOthers => exact .either ihFirst ihOthers
  | lastArgument last ih => exact .lastArgument ih
  | moreArguments first others ihFirst ihOthers => exact .moreArguments ihFirst ihOthers
  | property name type isOptional isReadonly ih => exact .property name ih isOptional isReadonly
  | index key argument result ihArgument ihResult => exact .index key ihArgument ihResult
  | getter key argument result isOptional ihArgument ihResult =>
    exact .getter key ihArgument ihResult isOptional
  | lastMember last ih => exact .lastMember ih
  | moreMembers first others ihFirst ihOthers => exact .moreMembers ihFirst ihOthers

/-- No text is that of two phrases. -/
theorem chars_injective {first second : Phrase .union} (same : first.chars = second.chars) :
    first = second :=
  (determined first second .nothing .nothing
    (by rw [List.append_nil, List.append_nil, same])).1

end Phrase

end TypeContracts
