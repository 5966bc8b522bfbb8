import Mathlib.Data.List.Forall2
import TypeContracts.Proofs.Declaration.Reading

/-!
# Rendered references are unambiguous

A legible reference, one with names that can be written and with no empty union, intersection
or argument list, is rendered as a phrase that says its normal form (`exists_spells`). No text
is that of two phrases, so references with one text have one normal form
(`normal_eq_of_render_eq`).

Where a reference stands decides whether it needs parentheses. The phrase of a reference that
is no union is therefore a single intersection, and that of a reference that is no
intersection either is a single operand (`Spells`).
-/

set_option autoImplicit false

namespace TypeContracts

/-! ## Legible references -/

/-- The name is an identifier. -/
def Literal.isName (name : String) : Bool := isIdentifier name.toList

/-- The reference is a name. -/
def TypeRef.isNamed : TypeRef → Bool
  | .builtin _ | .declared _ | .imported _ _ | .parameter _ => true
  | _ => false

mutual

/-- Names are identifiers, declared types have one, nothing is empty that joins or lists
types, and what is applied to arguments is a name. -/
def TypeRef.isLegible (names : Naming) : TypeRef → Bool
  | .builtin name => Literal.isName name
  | .declared identity => (names identity).any Literal.isName
  | .imported name _ => Literal.isName name
  | .array element => element.isLegible names
  | .union options => !options.isEmpty && TypeRef.allLegible names options
  | .intersection parts => !parts.isEmpty && TypeRef.allLegible names parts
  | .textLiteral _ => true
  | .numberLiteral _ => true
  | .generic base arguments =>
    base.isNamed && base.isLegible names &&
      (!arguments.isEmpty && TypeRef.allLegible names arguments)
  | .parameter name => Literal.isName name
  | .object members => Member.allLegible names members
  | .stray _ => false

/-- All the references are legible. -/
def TypeRef.allLegible (names : Naming) : List TypeRef → Bool
  | [] => true
  | reference :: rest => reference.isLegible names && TypeRef.allLegible names rest

/-- Keys are identifiers, and the types of the member are legible. -/
def Member.isLegible (names : Naming) : Member → Bool
  | .property _ type _ _ => type.isLegible names
  | .index keyName key value =>
    Literal.isName keyName && (key.isLegible names && value.isLegible names)
  | .getter argumentName argument result _ =>
    Literal.isName argumentName && (argument.isLegible names && result.isLegible names)
  | .stray _ => false

/-- All the members are legible. -/
def Member.allLegible (names : Naming) : List Member → Bool
  | [] => true
  | member :: rest => member.isLegible names && Member.allLegible names rest

end

/-! ## Phrases of references -/

variable {names : Naming}

/-- The phrase is the text of the reference and says its normal form. -/
structure Spells (names : Naming) (reference : TypeRef) (phrase : Phrase .union) : Prop where
  text : reference.render names = .ok phrase.text
  type : phrase.type = reference.normal names
  intersection : reference.bindsLooserThanIntersection = false → ∃ inner, phrase = .option inner
  operand : reference.bindsLooserThanArray = false → ∃ inner, phrase = .option (.factor inner)

/-- The phrase is the text of the member and says its normal form. -/
structure SpellsMember (names : Naming) (member : Member) (phrase : Phrase .member) : Prop where
  text : member.render names = .ok phrase.text
  member : phrase.reading = member.normal names

namespace Spells

variable {reference : TypeRef} {phrase : Phrase .union}

/-- A single operand. -/
theorem of_operand (inner : Phrase .operand) (text : reference.render names = .ok inner.text)
    (reading : inner.reading = reference.normal names) :
    Spells names reference (.option (.factor inner)) where
  text := text
  type := by rw [Phrase.type_option, Phrase.factorType_factor, reading]
  intersection := fun _ => ⟨_, rfl⟩
  operand := fun _ => ⟨_, rfl⟩

/-- A single atom. -/
theorem of_atom (atom : Phrase .atom) (text : reference.render names = .ok atom.text)
    (reading : atom.reading = reference.normal names) :
    Spells names reference (.option (.factor (.operand atom 0))) := by
  refine of_operand _ ?_ reading
  rw [text, Phrase.text, Phrase.text, Phrase.chars, Phrase.bracketPairs, List.append_nil]

theorem text_group (inner : Phrase .union) :
    (Phrase.operand (.group inner) 0).text = parenthesised inner.text := by
  apply String.toList_injective
  simp [Phrase.bracketPairs, parenthesised]

/-- The operand that stands for a reference as the element of an array. -/
theorem exists_operand (spells : Spells names reference phrase) :
    ∃ inner : Phrase .operand,
      (if reference.bindsLooserThanArray then parenthesised phrase.text else phrase.text) =
        inner.text ∧
      inner.reading = reference.normal names := by
  cases looser : reference.bindsLooserThanArray with
  | true => exact ⟨.operand (.group phrase) 0, (text_group phrase).symm, spells.type⟩
  | false =>
    obtain ⟨inner, rfl⟩ := spells.operand looser
    refine ⟨inner, rfl, ?_⟩
    rw [← spells.type, Phrase.type_option, Phrase.factorType_factor]

/-- The intersection that stands for a reference as a part of an intersection. -/
theorem exists_intersection (spells : Spells names reference phrase) :
    ∃ inner : Phrase .intersection,
      (if reference.bindsLooserThanIntersection then parenthesised phrase.text else phrase.text) =
        inner.text ∧
      inner.factorType = reference.normal names := by
  cases looser : reference.bindsLooserThanIntersection with
  | true =>
    refine ⟨.factor (.operand (.group phrase) 0), (text_group phrase).symm, ?_⟩
    rw [← spells.type, Phrase.factorType_factor]
    rfl
  | false =>
    obtain ⟨inner, rfl⟩ := spells.intersection looser
    refine ⟨inner, rfl, ?_⟩
    rw [← spells.type, Phrase.type_option]

end Spells

/-! ## Names -/

theorem exists_identifier {name : String} (proper : Literal.isName name = true) :
    ∃ word : Identifier, word.text = name :=
  ⟨⟨name.toList, proper⟩, String.ofList_toList⟩

/-- A legible name is an identifier. -/
theorem exists_word {reference : TypeRef} (named : reference.isNamed = true)
    (legible : reference.isLegible names = true) :
    ∃ word : Identifier, reference.render names = .ok word.text ∧
      reference.normal names = .builtin word.text := by
  cases reference with
  | builtin name | imported name path | parameter name =>
    obtain ⟨word, rfl⟩ := exists_identifier legible
    exact ⟨word, rfl, rfl⟩
  | declared identity =>
    rw [TypeRef.isLegible, Option.any_eq_true] at legible
    obtain ⟨name, declared, proper⟩ := legible
    obtain ⟨word, rfl⟩ := exists_identifier proper
    exact ⟨word, by rw [TypeRef.render, declared], by rw [TypeRef.normal, declared]⟩
  | _ => cases named

theorem exists_spells_of_isNamed {reference : TypeRef} (named : reference.isNamed = true)
    (legible : reference.isLegible names = true) :
    ∃ phrase, Spells names reference phrase := by
  obtain ⟨word, text, normal⟩ := exists_word named legible
  exact ⟨_, .of_atom (.word word) text normal.symm⟩

/-! ## Several references -/

/-- The phrases of several references, one for each. -/
abbrev SpellsAll (names : Naming) : List TypeRef → List (Phrase .union) → Prop :=
  List.Forall₂ (Spells names)

namespace SpellsAll

variable {references : List TypeRef} {phrases : List (Phrase .union)}

theorem texts (spells : SpellsAll names references phrases) :
    TypeRef.renderAll names references = .ok (phrases.map Phrase.text) := by
  induction spells with
  | nil => rfl
  | cons first _ ih => rw [TypeRef.renderAll, first.text, ih]; rfl

theorem types (spells : SpellsAll names references phrases) :
    phrases.map Phrase.type = TypeRef.normalAll names references := by
  induction spells with
  | nil => rfl
  | cons first _ ih => rw [List.map_cons, first.type, ih, TypeRef.normalAll]

/-- The intersections that stand for the parts of an intersection. -/
theorem exists_intersections (spells : SpellsAll names references phrases) :
    ∃ inner : List (Phrase .intersection),
      TypeRef.renderParts names references = .ok (inner.map Phrase.text) ∧
      inner.map Phrase.factorType = TypeRef.normalAll names references ∧
      inner.length = references.length := by
  induction spells with
  | nil => exact ⟨[], rfl, rfl, rfl⟩
  | @cons reference phrase _ _ first _ ih =>
    obtain ⟨inner, text, type⟩ := first.exists_intersection
    obtain ⟨others, texts, types, count⟩ := ih
    refine ⟨inner :: others, ?_, ?_, congrArg Nat.succ count⟩
    · rw [TypeRef.renderParts, first.text, texts, List.map_cons, ← text]
      rfl
    · rw [List.map_cons, type, types, TypeRef.normalAll]

/-- The list is not empty, and so neither are its phrases. -/
theorem exists_cons (spells : SpellsAll names references phrases)
    (proper : (!references.isEmpty) = true) : ∃ first rest, phrases = first :: rest := by
  cases spells with
  | nil => cases proper
  | cons _ _ => exact ⟨_, _, rfl⟩

end SpellsAll

/-- The phrases of several members, one for each. -/
abbrev SpellsMembers (names : Naming) : List Member → List (Phrase .member) → Prop :=
  List.Forall₂ (SpellsMember names)

namespace SpellsMembers

variable {members : List Member} {phrases : List (Phrase .member)}

theorem texts (spells : SpellsMembers names members phrases) :
    Member.renderAll names members = .ok (phrases.map Phrase.text) := by
  induction spells with
  | nil => rfl
  | cons first _ ih => rw [Member.renderAll, first.text, ih]; rfl

theorem readings (spells : SpellsMembers names members phrases) :
    phrases.map Phrase.reading = Member.normalAll names members := by
  induction spells with
  | nil => rfl
  | cons first _ ih => rw [List.map_cons, first.member, ih, Member.normalAll]

end SpellsMembers

/-! ## References made of others -/

theorem Spells.array {element : TypeRef} {phrase : Phrase .union}
    (spells : Spells names element phrase) : ∃ phrase, Spells names (.array element) phrase := by
  obtain ⟨inner, text, reading⟩ := spells.exists_operand
  cases inner with
  | operand atom brackets =>
    refine ⟨_, .of_operand (.operand atom (brackets + 1)) ?_ ?_⟩
    · rw [TypeRef.render, spells.text]
      refine congrArg Except.ok (String.toList_injective ?_)
      rw [text, String.toList_append, Phrase.toList_text, Phrase.toList_text, Phrase.chars,
        Phrase.chars, List.append_assoc]
      exact congrArg _ (Phrase.bracketPairs_append brackets)
    · exact congrArg TypeRef.array reading

theorem SpellsAll.union {options : List TypeRef} {phrases : List (Phrase .union)}
    (spells : SpellsAll names options phrases) (proper : (!options.isEmpty) = true) :
    ∃ phrase, Spells names (.union options) phrase := by
  obtain ⟨first, rest, rfl⟩ := spells.exists_cons proper
  refine ⟨.oneOf first rest, ?_, ?_, nofun, nofun⟩
  · rw [TypeRef.render, spells.texts, Phrase.text_oneOf]
    rfl
  · rw [Phrase.type_oneOf, spells.types, TypeRef.normal]

theorem SpellsAll.intersection {parts : List TypeRef} {phrases : List (Phrase .union)}
    (spells : SpellsAll names parts phrases) (proper : (!parts.isEmpty) = true) :
    ∃ phrase, Spells names (.intersection parts) phrase := by
  obtain ⟨inner, texts, types, count⟩ := spells.exists_intersections
  cases inner with
  | nil =>
    obtain rfl := List.eq_nil_of_length_eq_zero count.symm
    cases proper
  | cons first rest =>
    refine ⟨.option (.allOf first rest), ?_, ?_, fun _ => ⟨_, rfl⟩, nofun⟩
    · rw [TypeRef.render, texts]
      exact congrArg Except.ok (Phrase.text_allOf first rest).symm
    · rw [Phrase.type_option, Phrase.factorType_allOf, types, TypeRef.normal]

theorem SpellsAll.generic {base : TypeRef} {arguments : List TypeRef}
    {phrases : List (Phrase .union)} (spells : SpellsAll names arguments phrases)
    (proper : (!arguments.isEmpty) = true) (named : base.isNamed = true)
    (legible : base.isLegible names = true) :
    ∃ phrase, Spells names (.generic base arguments) phrase := by
  obtain ⟨first, rest, rfl⟩ := spells.exists_cons proper
  obtain ⟨word, text, normal⟩ := exists_word named legible
  refine ⟨_, .of_atom (.applied word (.listOf first rest)) ?_ ?_⟩
  · rw [TypeRef.render, spells.texts, text]
    refine congrArg Except.ok (String.toList_injective ?_)
    rw [← Phrase.text_listOf]
    simp [Identifier.text]
  · rw [Phrase.reading, Phrase.reading_listOf, spells.types, TypeRef.normal, normal]

theorem SpellsMembers.object {members : List Member} {phrases : List (Phrase .member)}
    (spells : SpellsMembers names members phrases) :
    ∃ phrase, Spells names (.object members) phrase := by
  cases phrases with
  | nil =>
    cases spells
    exact ⟨_, .of_atom .noMembers rfl rfl⟩
  | cons first rest =>
    refine ⟨_, .of_atom (.object (.membersOf first rest)) ?_ ?_⟩
    · cases spells with
      | cons isFirst others =>
        rw [TypeRef.render, SpellsMembers.texts (.cons isFirst others)]
        · refine congrArg Except.ok (String.toList_injective ?_)
          rw [← Phrase.text_membersOf]
          simp
        · intro none
          cases none
    · rw [Phrase.reading, Phrase.reading_membersOf, spells.readings, TypeRef.normal]

/-! ## Members -/

theorem Spells.property {type : TypeRef} {phrase : Phrase .union}
    (spells : Spells names type phrase) (name : String) (isOptional isReadonly : Bool) :
    ∃ phrase, SpellsMember names (.property name type isOptional isReadonly) phrase := by
  refine ⟨.property name phrase isOptional isReadonly, ?_, ?_⟩
  · rw [Member.render, spells.text]
    refine congrArg Except.ok (String.toList_injective ?_)
    cases isOptional <;> cases isReadonly <;>
      simp [Phrase.optionalMark, Phrase.readonlyMark]
  · rw [Phrase.reading, ← Phrase.type, spells.type, Member.normal]

theorem Spells.index {keyName : String} {key value : TypeRef} {phrase phrase' : Phrase .union}
    (spells : Spells names key phrase) (spells' : Spells names value phrase')
    (proper : Literal.isName keyName = true) :
    ∃ phrase, SpellsMember names (.index keyName key value) phrase := by
  obtain ⟨word, rfl⟩ := exists_identifier proper
  refine ⟨.index word phrase phrase', ?_, ?_⟩
  · rw [Member.render, spells.text, spells'.text]
    refine congrArg Except.ok (String.toList_injective ?_)
    simp [keyed, Identifier.text]
  · rw [Phrase.reading, ← Phrase.type, ← Phrase.type, spells.type, spells'.type, Member.normal]

/-- The argument of a getter is written like a key of index signatures only if it is one. -/
theorem Spells.isIndexKey {reference : TypeRef} {phrase : Phrase .union}
    (spells : Spells names reference phrase)
    (written : phrase.text = "string" ∨ phrase.text = "number") :
    (reference.normal names).isIndexKey = true := by
  have word : ∀ name : Identifier, phrase.text = name.text →
      phrase.type = .builtin name.text := by
    intro name same
    have spelled :
        Spells names (.builtin name.text) (.option (.factor (.operand (.word name) 0))) :=
      .of_atom (.word name) rfl rfl
    have whole : phrase = .option (.factor (.operand (.word name) 0)) := by
      refine Phrase.chars_injective ?_
      rw [← Phrase.toList_text, same, ← Phrase.toList_text,
        Except.ok.inj (spelled.text.symm.trans rfl)]
    rw [whole, spelled.type, TypeRef.normal]
  rw [← spells.type]
  rcases written with text | text
  · rw [word ⟨"string".toList, by decide⟩ text]
    decide
  · rw [word ⟨"number".toList, by decide⟩ text]
    decide

theorem Spells.getter {argumentName : String} {argument result : TypeRef}
    {phrase phrase' : Phrase .union} (spells : Spells names argument phrase)
    (spells' : Spells names result phrase') (proper : Literal.isName argumentName = true)
    (isOptional : Bool) :
    ∃ phrase, SpellsMember names (.getter argumentName argument result isOptional) phrase := by
  obtain ⟨word, rfl⟩ := exists_identifier proper
  by_cases written : phrase.text = "string" ∨ phrase.text = "number"
  · refine ⟨.index word phrase phrase', ?_, ?_⟩
    · rw [Member.render, spells.text, spells'.text]
      refine (if_pos written).trans (congrArg Except.ok (String.toList_injective ?_))
      simp [keyed, Identifier.text]
    · rw [Phrase.reading, ← Phrase.type, ← Phrase.type, spells.type, spells'.type, Member.normal,
        Member.keyed, if_pos (spells.isIndexKey written)]
  · refine ⟨.getter word phrase phrase' isOptional, ?_, ?_⟩
    · rw [Member.render, spells.text, spells'.text]
      refine (if_neg written).trans (congrArg Except.ok (String.toList_injective ?_))
      cases isOptional <;> simp [Phrase.optionalMark, keyed, Identifier.text]
    · rw [Phrase.reading, ← Phrase.type, ← Phrase.type, spells.type, spells'.type, Member.normal]

/-! ## Every legible reference has a phrase -/

mutual

/-- A legible reference is rendered as a phrase that says its normal form. -/
theorem exists_spells (names : Naming) :
    ∀ reference : TypeRef, reference.isLegible names = true →
      ∃ phrase, Spells names reference phrase
  | .builtin _, legible | .declared _, legible | .imported _ _, legible | .parameter _, legible =>
    exists_spells_of_isNamed rfl legible
  | .array element, legible =>
    have ⟨_, spells⟩ := exists_spells names element legible
    spells.array
  | .union options, legible => by
    rw [TypeRef.isLegible, Bool.and_eq_true] at legible
    obtain ⟨_, spells⟩ := exists_spellsAll names options legible.2
    exact spells.union legible.1
  | .intersection parts, legible => by
    rw [TypeRef.isLegible, Bool.and_eq_true] at legible
    obtain ⟨_, spells⟩ := exists_spellsAll names parts legible.2
    exact spells.intersection legible.1
  | .textLiteral value, _ => ⟨_, .of_atom (.literal value) rfl rfl⟩
  | .numberLiteral value, _ =>
    ⟨_, .of_atom (.number value) (congrArg Except.ok String.ofList_toList.symm) rfl⟩
  | .generic base arguments, legible => by
    rw [TypeRef.isLegible, Bool.and_eq_true, Bool.and_eq_true, Bool.and_eq_true] at legible
    obtain ⟨_, spells⟩ := exists_spellsAll names arguments legible.2.2
    exact spells.generic legible.2.1 legible.1.1 legible.1.2
  | .object members, legible =>
    have ⟨_, spells⟩ := exists_spellsMembers names members legible
    spells.object

theorem exists_spellsAll (names : Naming) :
    ∀ references : List TypeRef, TypeRef.allLegible names references = true →
      ∃ phrases, SpellsAll names references phrases
  | [], _ => ⟨[], .nil⟩
  | reference :: rest, legible => by
    rw [TypeRef.allLegible, Bool.and_eq_true] at legible
    obtain ⟨_, first⟩ := exists_spells names reference legible.1
    obtain ⟨_, others⟩ := exists_spellsAll names rest legible.2
    exact ⟨_, .cons first others⟩

theorem exists_spellsMember (names : Naming) :
    ∀ member : Member, member.isLegible names = true →
      ∃ phrase, SpellsMember names member phrase
  | .property name type isOptional isReadonly, legible =>
    have ⟨_, spells⟩ := exists_spells names type legible
    spells.property name isOptional isReadonly
  | .index keyName key value, legible => by
    rw [Member.isLegible, Bool.and_eq_true, Bool.and_eq_true] at legible
    obtain ⟨_, spells⟩ := exists_spells names key legible.2.1
    obtain ⟨_, spells'⟩ := exists_spells names value legible.2.2
    exact spells.index spells' legible.1
  | .getter argumentName argument result isOptional, legible => by
    rw [Member.isLegible, Bool.and_eq_true, Bool.and_eq_true] at legible
    obtain ⟨_, spells⟩ := exists_spells names argument legible.2.1
    obtain ⟨_, spells'⟩ := exists_spells names result legible.2.2
    exact spells.getter spells' legible.1 isOptional

theorem exists_spellsMembers (names : Naming) :
    ∀ members : List Member, Member.allLegible names members = true →
      ∃ phrases, SpellsMembers names members phrases
  | [], _ => ⟨[], .nil⟩
  | member :: rest, legible => by
    rw [Member.allLegible, Bool.and_eq_true] at legible
    obtain ⟨_, first⟩ := exists_spellsMember names member legible.1
    obtain ⟨_, others⟩ := exists_spellsMembers names rest legible.2
    exact ⟨_, .cons first others⟩

end

/-- References with one text have one normal form. -/
theorem normal_eq_of_render_eq (names : Naming) {first second : TypeRef}
    (legible : first.isLegible names = true) (legible' : second.isLegible names = true)
    (same : first.render names = second.render names) :
    first.normal names = second.normal names := by
  obtain ⟨phrase, spells⟩ := exists_spells names first legible
  obtain ⟨phrase', spells'⟩ := exists_spells names second legible'
  have text : phrase.text = phrase'.text :=
    Except.ok.inj (spells.text.symm.trans (same.trans spells'.text))
  have equal : phrase = phrase' :=
    Phrase.chars_injective (by rw [← Phrase.toList_text, text, Phrase.toList_text])
  rw [← spells.type, equal, spells'.type]

/-- Two references with the text `(Person | null | 'it\'s')[] & { [key: string]: Person; }`. -/
theorem normal_eq_of_render_eq_person :
    TypeRef.normal (fun _ => some "Person")
        (.intersection [.array (.union [.declared ⟨"m.Person", [], false⟩,
          .union [.null, .textLiteral "it's"]]),
          .object [.getter "key" .string (.imported "Person" "people.ts") true]]) =
      TypeRef.normal (fun _ => some "Person")
        (.intersection [.intersection [.array (.union [.union [.builtin "Person", .null],
          .textLiteral "it's"])],
          .object [.index "key" (.parameter "string") (.parameter "Person")]]) :=
  normal_eq_of_render_eq (fun _ => some "Person") (by decide) (by decide) (by decide +kernel)

end TypeContracts
