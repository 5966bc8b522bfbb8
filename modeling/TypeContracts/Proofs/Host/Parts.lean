import TypeContracts.Host.Basic

/-!
# Parts of a type

A type that is written in place is written with the forms of its parts: the element of a
sequence, the key and the value of a mapping, the options of a union. The key of a mapping
is never nullable. Parts are smaller than their type, so what holds of a type whenever it
holds of the parts holds of every type (`Host.induction`).
-/

set_option autoImplicit false

namespace TypeContracts.Host

variable {Loader : Type}

/-- The types that the form of a type in place refers to, from left to right. -/
def parts (host : Host Loader) : List (Host Loader) :=
  match host.kind with
  | .sequence => host.element.toList
  | .mapping => (host.key.map fun key => key.asNullable false).toList ++ host.value.toList
  | .union => host.options
  | _ => []

/-- The part of a sequence is its element. -/
theorem parts_sequence {host element : Host Loader} (kind : host.kind = .sequence)
    (found : host.element = some element) : host.parts = [element] := by
  rw [parts, kind, found]
  rfl

/-- The parts of a mapping are its key, which is never nullable, and its value. -/
theorem parts_mapping {host key value : Host Loader} (kind : host.kind = .mapping)
    (keyed : host.key = some key) (valued : host.value = some value) :
    host.parts = [key.asNullable false, value] := by
  rw [parts, kind, keyed, valued]
  rfl

/-- The parts of a union are its options. -/
theorem parts_union {host : Host Loader} (kind : host.kind = .union) :
    host.parts = host.options := by
  rw [parts, kind]

@[simp] theorem parts_asNullable (host : Host Loader) (nullable : Bool) :
    (host.asNullable nullable).parts = host.parts := rfl

@[simp] theorem kind_asNullable (host : Host Loader) (nullable : Bool) :
    (host.asNullable nullable).kind = host.kind := rfl

@[simp] theorem asNullable_asNullable (host : Host Loader) (first second : Bool) :
    (host.asNullable first).asNullable second = host.asNullable second := rfl

@[simp] theorem asNullable_nullable (host : Host Loader) :
    host.asNullable host.nullable = host := by
  cases host
  rfl

/-- Nullability has no size. -/
theorem sizeOf_asNullable (host : Host Loader) (nullable : Bool) :
    sizeOf (host.asNullable nullable) = sizeOf host := by
  cases host with
  | mk kind fullName name arguments own element key value options enumMembers loader =>
    cases nullable <;> cases own <;> rfl

/-- A part is smaller than its type. -/
theorem sizeOf_lt_of_mem_parts {host part : Host Loader} (member : part ∈ host.parts) :
    sizeOf part < sizeOf host := by
  have inside : ∀ {place : Option (Host Loader)} {inner : Host Loader}, place = some inner →
      sizeOf inner < sizeOf place := by
    rintro place inner rfl
    simp only [Option.some.sizeOf_spec]
    omega
  cases host with
  | mk kind fullName name arguments nullable element key value options enumMembers loader =>
    simp only [Host.mk.sizeOf_spec]
    cases kind with
    | sequence =>
      have smaller := inside (Option.mem_toList.mp member)
      simp only at smaller
      omega
    | mapping =>
      rcases List.mem_append.mp member with keyed | valued
      · obtain ⟨inner, found, rfl⟩ := Option.map_eq_some_iff.mp (Option.mem_toList.mp keyed)
        have smaller := inside found
        rw [sizeOf_asNullable]
        simp only at smaller
        omega
      · have smaller := inside (Option.mem_toList.mp valued)
        simp only at smaller
        omega
    | union =>
      have smaller := List.sizeOf_lt_of_mem (show part ∈ options from member)
      omega
    | _ => cases member

/-- What holds of a type whenever it holds of its parts holds of every type. -/
theorem induction {motive : Host Loader → Prop}
    (step : ∀ host : Host Loader, (∀ part ∈ host.parts, motive part) → motive host)
    (host : Host Loader) : motive host :=
  step host fun part _ => induction step part
termination_by sizeOf host
decreasing_by exact sizeOf_lt_of_mem_parts ‹_›

end TypeContracts.Host
