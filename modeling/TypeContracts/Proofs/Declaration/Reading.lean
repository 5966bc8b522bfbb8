import TypeContracts.Proofs.Declaration.Normal
import TypeContracts.Proofs.Declaration.Phrase

/-!
# What phrases say

A reader of a phrase recovers a type in normal form: `Phrase.type`. Phrases of a sort can be put
together to longer ones. The text of the longer phrase is that of its parts with the separator
between them, and what it says is what its parts say (`text_oneOf`, `type_oneOf`, and so for
intersections, arguments and members).
-/

set_option autoImplicit false

namespace TypeContracts

/-- The identifier as a name. -/
def Identifier.text (name : Identifier) : String := String.ofList name.chars

/-- What the phrases of a sort say. -/
abbrev PhraseSort.Reading : PhraseSort → Type
  | .union | .intersection | .arguments => List TypeRef
  | .operand | .atom => TypeRef
  | .member => Member
  | .members => List Member

/-- Types that are said are spliced. -/
def PhraseSort.IsSpliced : (sort : PhraseSort) → sort.Reading → Prop
  | .union, references | .intersection, references => ∀ r ∈ references, Spliced r
  | .operand, reference | .atom, reference => Spliced reference
  | .arguments, _ | .member, _ | .members, _ => True

namespace Phrase

/-! ## Readings -/

/-- The type of arrays of arrays, so many times. -/
def arrays : Nat → TypeRef → TypeRef
  | 0, reference => reference
  | count + 1, reference => .array (arrays count reference)

/-- What a phrase says. -/
def reading : {sort : PhraseSort} → Phrase sort → sort.Reading
  | _, .word name => TypeRef.builtin name.text
  | _, .applied name inner => TypeRef.generic (.builtin name.text) inner.reading
  | _, .literal value => TypeRef.textLiteral value
  | _, .number value => TypeRef.numberLiteral value
  | _, .noMembers => TypeRef.object []
  | _, .object inner => TypeRef.object inner.reading
  | _, .group inner => Connective.either.combine inner.reading
  | _, .operand atom brackets => arrays brackets atom.reading
  | _, .factor last => [last.reading]
  | _, .meet first rest => List.cons first.reading rest.reading
  | _, .option last => [Connective.both.combine last.reading]
  | _, .either first rest => List.cons (Connective.both.combine first.reading) rest.reading
  | _, .lastArgument last => [Connective.either.combine last.reading]
  | _, .moreArguments first rest =>
    List.cons (Connective.either.combine first.reading) rest.reading
  | _, .property name type isOptional isReadonly =>
    Member.property name (Connective.either.combine type.reading) isOptional isReadonly
  | _, .index key argument result =>
    Member.index key.text (Connective.either.combine argument.reading)
      (Connective.either.combine result.reading)
  | _, .getter key argument result isOptional =>
    Member.keyed key.text (Connective.either.combine argument.reading)
      (Connective.either.combine result.reading) isOptional
  | _, .lastMember last => [last.reading]
  | _, .moreMembers first rest => List.cons first.reading rest.reading

/-- The text of a phrase. -/
def text {sort : PhraseSort} (phrase : Phrase sort) : String := String.ofList phrase.chars

@[simp] theorem toList_text {sort : PhraseSort} (phrase : Phrase sort) :
    phrase.text.toList = phrase.chars :=
  String.toList_ofList

/-- The type that a phrase says. -/
def type (phrase : Phrase .union) : TypeRef := Connective.either.combine phrase.reading

/-- The type that the phrase of an intersection says. -/
def factorType (phrase : Phrase .intersection) : TypeRef :=
  Connective.both.combine phrase.reading

theorem spliced_arrays (count : Nat) {reference : TypeRef} (spliced : Spliced reference) :
    Spliced (arrays count reference) := by
  cases count with
  | zero => exact spliced
  | succ count =>
    refine .alone ?_
    intro op
    cases op <;> rfl

theorem isSpliced_reading {sort : PhraseSort} (phrase : Phrase sort) :
    sort.IsSpliced phrase.reading := by
  induction phrase with
  | word | applied | literal | number | noMembers | object =>
    refine Spliced.alone ?_
    intro op
    cases op <;> rfl
  | group inner ih => exact Connective.spliced_combine ih
  | operand atom brackets ih => exact spliced_arrays brackets ih
  | factor last ih => exact List.forall_mem_singleton.mpr ih
  | meet first rest ihFirst ihRest => exact List.forall_mem_cons.mpr ⟨ihFirst, ihRest⟩
  | option last ih => exact List.forall_mem_singleton.mpr (Connective.spliced_combine ih)
  | either first rest ihFirst ihRest =>
    exact List.forall_mem_cons.mpr ⟨Connective.spliced_combine ihFirst, ihRest⟩
  | lastArgument | moreArguments | property | index | getter | lastMember | moreMembers =>
    exact trivial

/-- The phrase of a single intersection says what the intersection says. -/
theorem type_option (phrase : Phrase .intersection) : (option phrase).type = phrase.factorType :=
  Connective.combine_singleton (Connective.spliced_combine (isSpliced_reading phrase))

/-- The phrase of a single operand says what the operand says. -/
theorem factorType_factor (phrase : Phrase .operand) :
    (factor phrase).factorType = phrase.reading :=
  Connective.combine_singleton (isSpliced_reading phrase)

/-! ## Longer phrases -/

/-- The options of one union and then those of another one. -/
def orElse : Phrase .union → Phrase .union → Phrase .union
  | .option first, others => .either first others
  | .either first rest, others => .either first (rest.orElse others)

/-- The parts of one intersection and then those of another one. -/
def andAlso : Phrase .intersection → Phrase .intersection → Phrase .intersection
  | .factor first, others => .meet first others
  | .meet first rest, others => .meet first (rest.andAlso others)

/-- The options of one or more unions. -/
def oneOf : Phrase .union → List (Phrase .union) → Phrase .union
  | first, [] => first
  | first, next :: rest => first.orElse (oneOf next rest)

/-- The parts of one or more intersections. -/
def allOf : Phrase .intersection → List (Phrase .intersection) → Phrase .intersection
  | first, [] => first
  | first, next :: rest => first.andAlso (allOf next rest)

/-- One or more arguments. -/
def listOf : Phrase .union → List (Phrase .union) → Phrase .arguments
  | last, [] => .lastArgument last
  | first, next :: rest => .moreArguments first (listOf next rest)

/-- One or more members. -/
def membersOf : Phrase .member → List (Phrase .member) → Phrase .members
  | last, [] => .lastMember last
  | first, next :: rest => .moreMembers first (membersOf next rest)

theorem chars_orElse (first others : Phrase .union) :
    (first.orElse others).chars = first.chars ++ " | ".toList ++ others.chars := by
  cases first with
  | option first => simp [orElse]
  | either first rest => simp [orElse, chars_orElse rest others]

theorem reading_orElse (first others : Phrase .union) :
    (first.orElse others).reading = List.append first.reading others.reading := by
  cases first with
  | option first =>
    rw [orElse]
    rfl
  | either first rest =>
    rw [orElse]
    exact congrArg (List.cons _) (reading_orElse rest others)

theorem chars_andAlso (first others : Phrase .intersection) :
    (first.andAlso others).chars = first.chars ++ " & ".toList ++ others.chars := by
  cases first with
  | factor first => simp [andAlso]
  | meet first rest => simp [andAlso, chars_andAlso rest others]

theorem reading_andAlso (first others : Phrase .intersection) :
    (first.andAlso others).reading = List.append first.reading others.reading := by
  cases first with
  | factor first =>
    rw [andAlso]
    rfl
  | meet first rest =>
    rw [andAlso]
    exact congrArg (List.cons _) (reading_andAlso rest others)

/-- A phrase that is put together from others has their texts with a separator between them. -/
theorem text_of_chars {sort sort' : PhraseSort} {separator : String}
    {together : Phrase sort → List (Phrase sort) → Phrase sort'}
    (single : ∀ first, (together first []).chars = first.chars)
    (several : ∀ first next rest, (together first (next :: rest)).chars =
      first.chars ++ separator.toList ++ (together next rest).chars)
    (first : Phrase sort) (rest : List (Phrase sort)) :
    (together first rest).text = Text.join separator ((first :: rest).map text) := by
  apply String.toList_injective
  induction rest generalizing first with
  | nil =>
    rw [toList_text, single, List.map_singleton, Text.join, String.intercalate_singleton,
      toList_text]
  | cons next rest ih =>
    rw [toList_text, several, List.map_cons, List.map_cons, Text.join,
      String.intercalate_cons_cons, String.toList_append, String.toList_append, toList_text,
      ← List.map_cons, ← Text.join, ← ih next, toList_text]

theorem text_oneOf (first : Phrase .union) (rest : List (Phrase .union)) :
    (oneOf first rest).text = Text.join " | " ((first :: rest).map text) :=
  text_of_chars (fun _ => rfl) (fun _ _ _ => chars_orElse _ _) first rest

theorem text_allOf (first : Phrase .intersection) (rest : List (Phrase .intersection)) :
    (allOf first rest).text = Text.join " & " ((first :: rest).map text) :=
  text_of_chars (fun _ => rfl) (fun _ _ _ => chars_andAlso _ _) first rest

theorem text_listOf (first : Phrase .union) (rest : List (Phrase .union)) :
    (listOf first rest).text = Text.join ", " ((first :: rest).map text) :=
  text_of_chars (fun _ => rfl) (fun _ _ _ => by simp [listOf]) first rest

theorem text_membersOf (first : Phrase .member) (rest : List (Phrase .member)) :
    (membersOf first rest).text = Text.join " " ((first :: rest).map text) :=
  text_of_chars (fun _ => rfl) (fun _ _ _ => by simp [membersOf]) first rest

theorem reading_oneOf (first : Phrase .union) (rest : List (Phrase .union)) :
    (oneOf first rest).reading = ((first :: rest).map reading : List (List TypeRef)).flatten := by
  induction rest generalizing first with
  | nil => exact (List.append_nil _).symm
  | cons next rest ih =>
    rw [oneOf, reading_orElse, ih next]
    rfl

theorem reading_allOf (first : Phrase .intersection) (rest : List (Phrase .intersection)) :
    (allOf first rest).reading = ((first :: rest).map reading : List (List TypeRef)).flatten := by
  induction rest generalizing first with
  | nil => exact (List.append_nil _).symm
  | cons next rest ih =>
    rw [allOf, reading_andAlso, ih next]
    rfl

/-- The type of several unions together is the union of their types. -/
theorem type_oneOf (first : Phrase .union) (rest : List (Phrase .union)) :
    (oneOf first rest).type = Connective.either.combine ((first :: rest).map type) := by
  rw [type, reading_oneOf, ← Connective.combine_flatten, List.map_map]
  · rfl
  · intro group member
    obtain ⟨phrase, _, rfl⟩ := List.mem_map.mp member
    exact isSpliced_reading phrase

/-- The type of several intersections together is the intersection of their types. -/
theorem factorType_allOf (first : Phrase .intersection) (rest : List (Phrase .intersection)) :
    (allOf first rest).factorType =
      Connective.both.combine ((first :: rest).map factorType) := by
  rw [factorType, reading_allOf, ← Connective.combine_flatten, List.map_map]
  · rfl
  · intro group member
    obtain ⟨phrase, _, rfl⟩ := List.mem_map.mp member
    exact isSpliced_reading phrase

theorem reading_listOf (first : Phrase .union) (rest : List (Phrase .union)) :
    (listOf first rest).reading = (first :: rest).map type := by
  induction rest generalizing first with
  | nil => rfl
  | cons next rest ih => exact congrArg (List.cons _) (ih next)

theorem reading_membersOf (first : Phrase .member) (rest : List (Phrase .member)) :
    (membersOf first rest).reading = ((first :: rest).map reading : List Member) := by
  induction rest generalizing first with
  | nil => rfl
  | cons next rest ih => exact congrArg (List.cons _) (ih next)

end Phrase

end TypeContracts
