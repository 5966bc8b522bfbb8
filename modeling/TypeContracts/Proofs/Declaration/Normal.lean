import TypeContracts.Declaration.Render

/-!
# Normal forms of references

A written type does not tell a built-in name from an imported one, a union of unions from one
long union, a union of one type from that type, or a getter over all texts from an index
signature. The normal form of a reference forgets these differences.

Unions and intersections are treated alike, so both are made by one operation
(`Connective.combine`). What it makes is spliced: no operand could be taken apart again
(`Spliced`). On spliced types, combining in two steps is combining in one
(`Connective.combine_flatten`).
-/

set_option autoImplicit false

namespace TypeContracts

/-! ## Unions and intersections -/

/-- The two ways of joining types. -/
inductive Connective where
  | either
  | both
deriving DecidableEq, Repr

namespace Connective

/-- The joined types. -/
def join : Connective → List TypeRef → TypeRef
  | .either, operands => .union operands
  | .both, operands => .intersection operands

/-- The types that a reference joins: those of a joined type, and else the type alone. -/
def operands : Connective → TypeRef → List TypeRef
  | .either, .union options => options
  | .both, .intersection parts => parts
  | _, reference => [reference]

/-- The types are joined in one list. A type alone is not joined. -/
def combine (op : Connective) (references : List TypeRef) : TypeRef :=
  match references.flatMap op.operands with
  | [single] => single
  | several => op.join several

@[simp] theorem operands_join (op : Connective) (references : List TypeRef) :
    op.operands (op.join references) = references := by
  cases op <;> rfl

theorem operands_join_of_ne {op op' : Connective} (differ : op ≠ op')
    (references : List TypeRef) : op.operands (op'.join references) = [op'.join references] := by
  cases op <;> cases op' <;> first | rfl | exact absurd rfl differ

theorem combine_of_flatMap_eq_singleton {op : Connective} {references : List TypeRef}
    {single : TypeRef} (alone : references.flatMap op.operands = [single]) :
    op.combine references = single := by
  rw [combine, alone]

theorem combine_of_flatMap_ne_singleton {op : Connective} {references : List TypeRef}
    (several : ∀ single, references.flatMap op.operands ≠ [single]) :
    op.combine references = op.join (references.flatMap op.operands) := by
  unfold combine
  split
  case h_1 single alone => exact absurd alone (several single)
  case h_2 => rfl

end Connective

/-- No union in the reference has a union among its options, nor one option alone, and so for
intersections. Only what unions and intersections join is looked into. -/
inductive Spliced : TypeRef → Prop where
  | alone {reference : TypeRef} (single : ∀ op : Connective, op.operands reference = [reference]) :
    Spliced reference
  | join {op : Connective} {references : List TypeRef}
    (several : ∀ single, references ≠ [single])
    (spliced : ∀ r ∈ references, Spliced r) (apart : ∀ r ∈ references, op.operands r = [r]) :
    Spliced (op.join references)

namespace Spliced

/-- What a spliced type joins is spliced and not joined again. -/
theorem of_mem_operands {reference : TypeRef} (spliced : Spliced reference) (op : Connective) :
    ∀ r ∈ op.operands reference, Spliced r ∧ op.operands r = [r] := by
  intro r member
  cases spliced with
  | alone single =>
    rw [single op, List.mem_singleton] at member
    subst member
    exact ⟨.alone single, single op⟩
  | @join op' references several spliced apart =>
    by_cases same : op = op'
    · subst same
      rw [Connective.operands_join] at member
      exact ⟨spliced r member, apart r member⟩
    · have outer := Connective.operands_join_of_ne same references
      rw [outer, List.mem_singleton] at member
      subst member
      exact ⟨.join several spliced apart, outer⟩

/-- A spliced type that joins one type is that type. -/
theorem eq_of_operands_eq_singleton {reference single : TypeRef} (spliced : Spliced reference)
    {op : Connective} (joins : op.operands reference = [single]) : reference = single := by
  cases spliced with
  | alone isAlone =>
    rw [isAlone op] at joins
    exact (List.cons.inj joins).1
  | @join op' references several _ _ =>
    by_cases same : op = op'
    · subst same
      rw [Connective.operands_join] at joins
      exact absurd joins (several single)
    · rw [Connective.operands_join_of_ne same references] at joins
      exact (List.cons.inj joins).1

end Spliced

namespace Connective

variable {op : Connective} {references : List TypeRef}

theorem spliced_of_mem_flatMap (spliced : ∀ r ∈ references, Spliced r) :
    ∀ r ∈ references.flatMap op.operands, Spliced r ∧ op.operands r = [r] := by
  intro r member
  obtain ⟨reference, isReference, joined⟩ := List.mem_flatMap.mp member
  exact (spliced reference isReference).of_mem_operands op r joined

theorem spliced_combine (spliced : ∀ r ∈ references, Spliced r) :
    Spliced (op.combine references) := by
  have joined := @spliced_of_mem_flatMap op references spliced
  by_cases alone : ∃ single, references.flatMap op.operands = [single]
  · obtain ⟨single, alone⟩ := alone
    rw [combine_of_flatMap_eq_singleton alone]
    exact (joined single (alone ▸ List.mem_singleton_self single)).1
  · have several := not_exists.mp alone
    rw [combine_of_flatMap_ne_singleton several]
    exact .join several (fun r member => (joined r member).1) (fun r member => (joined r member).2)

/-- What a combined type joins. -/
theorem operands_combine (spliced : ∀ r ∈ references, Spliced r) :
    op.operands (op.combine references) = references.flatMap op.operands := by
  by_cases alone : ∃ single, references.flatMap op.operands = [single]
  · obtain ⟨single, alone⟩ := alone
    rw [combine_of_flatMap_eq_singleton alone, alone]
    exact (spliced_of_mem_flatMap spliced single (alone ▸ List.mem_singleton_self single)).2
  · rw [combine_of_flatMap_ne_singleton (not_exists.mp alone), operands_join]

/-- One spliced type is combined to itself. -/
theorem combine_singleton {reference : TypeRef} (spliced : Spliced reference) :
    op.combine [reference] = reference := by
  by_cases alone : ∃ single, op.operands reference = [single]
  · obtain ⟨single, alone⟩ := alone
    rw [spliced.eq_of_operands_eq_singleton alone]
    refine combine_of_flatMap_eq_singleton ?_
    rw [List.flatMap_singleton, ← spliced.eq_of_operands_eq_singleton alone, alone,
      spliced.eq_of_operands_eq_singleton alone]
  · have several := not_exists.mp alone
    cases spliced with
    | alone single => exact absurd (single op) (several reference)
    | @join op' references _ _ _ =>
      by_cases same : op = op'
      · subst same
        rw [combine_of_flatMap_ne_singleton (by rwa [List.flatMap_singleton]),
          List.flatMap_singleton, operands_join]
      · exact absurd (operands_join_of_ne same references) (several _)

/-- Types that are combined in groups first are combined. -/
theorem combine_flatten {groups : List (List TypeRef)}
    (spliced : ∀ group ∈ groups, ∀ r ∈ group, Spliced r) :
    op.combine (groups.map op.combine) = op.combine groups.flatten := by
  have joined : (groups.map op.combine).flatMap op.operands =
      groups.flatten.flatMap op.operands := by
    induction groups with
    | nil => rfl
    | cons group rest ih =>
      rw [List.forall_mem_cons] at spliced
      rw [List.map_cons, List.flatMap_cons, List.flatten_cons, List.flatMap_append,
        operands_combine spliced.1, ih spliced.2]
  rw [combine, combine, joined]

end Connective

/-! ## The normal form -/

/-- A keyed member. A key that is any text or any number makes an index signature. -/
def Member.keyed (keyName : String) (key result : TypeRef) (isOptional : Bool) : Member :=
  if key.isIndexKey then .index keyName key result else .getter keyName key result isOptional

mutual

/-- The normal form of a reference: leaves bear their written names, unions and intersections
are spliced, and so within. -/
def TypeRef.normal (names : Naming) : TypeRef → TypeRef
  | .builtin name => .builtin name
  | .declared identity =>
    match names identity with
    | some name => .builtin name
    | none => .declared identity
  | .imported name _ => .builtin name
  | .array element => .array (element.normal names)
  | .union options => Connective.either.combine (TypeRef.normalAll names options)
  | .intersection parts => Connective.both.combine (TypeRef.normalAll names parts)
  | .textLiteral value => .textLiteral value
  | .numberLiteral value => .numberLiteral value
  | .generic base arguments => .generic (base.normal names) (TypeRef.normalAll names arguments)
  | .parameter name => .builtin name
  | .object members => .object (Member.normalAll names members)
  | .stray value => .stray value

/-- The normal forms of several references. -/
def TypeRef.normalAll (names : Naming) : List TypeRef → List TypeRef
  | [] => []
  | reference :: rest => reference.normal names :: TypeRef.normalAll names rest

/-- The normal form of a member. -/
def Member.normal (names : Naming) : Member → Member
  | .property name type isOptional isReadonly =>
    .property name (type.normal names) isOptional isReadonly
  | .index keyName key value => .index keyName (key.normal names) (value.normal names)
  | .getter argumentName argument result isOptional =>
    Member.keyed argumentName (argument.normal names) (result.normal names) isOptional
  | .stray value => .stray value

/-- The normal forms of several members. -/
def Member.normalAll (names : Naming) : List Member → List Member
  | [] => []
  | member :: rest => member.normal names :: Member.normalAll names rest

end

end TypeContracts
