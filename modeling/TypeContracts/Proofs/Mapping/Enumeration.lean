import Mathlib.Data.List.Nodup
import TypeContracts.Mapping.Recorder
import TypeContracts.Proofs.Mapping.Steps

/-!
# The values of a numeric enumeration

A numeric enumeration has an entry for every member, in order and under the same name. Texts and
whole numbers are kept (`EnumValue.literal?`), and the position of the member stands for every
other value. Positions and kept numbers are drawn from the same numbers. Two entries have the same
value exactly if one of them has its position for a value and the other keeps that position as its
own number (`Mapping.entryValue_eq_iff`). So members with different values stay apart if no
position that is used is kept by another member, and in no other case
(`Mapper.mapType_numericEnumeration`).
-/

set_option autoImplicit false

namespace TypeContracts

/-- The literal that a value is kept as, if it is kept. -/
def EnumValue.literal? : EnumValue → Option EnumLiteral
  | .text value => some (.text value)
  | .integer value => some (.number value)
  | _ => none

namespace Mapping

/-! ## One entry -/

theorem entryValue_of_literal? {position : Nat} {value : EnumValue} {literal : EnumLiteral}
    (kept : value.literal? = some literal) : entryValue position value = literal := by
  cases value <;> cases kept <;> rfl

theorem entryValue_of_literal?_eq_none {position : Nat} {value : EnumValue}
    (replaced : value.literal? = none) : entryValue position value = .number position := by
  cases value <;> first | rfl | cases replaced

/-- Values that are kept as the same literal are the same. -/
theorem same_of_literal? {a b : EnumValue} {literal : EnumLiteral} (left : a.literal? = some literal)
    (right : b.literal? = some literal) : a.same b = true := by
  cases a <;> cases left <;> cases b <;> cases right <;> simp [EnumValue.same]

/-- Different values have the same entry value at two positions exactly if one of them is replaced
by its position and the other is kept as that number. -/
theorem entryValue_eq_iff {i j : Nat} (elsewhere : i ≠ j) {a b : EnumValue}
    (different : a.same b = false) :
    entryValue i a = entryValue j b ↔
      a.literal? = none ∧ b.literal? = some (.number i) ∨
        b.literal? = none ∧ a.literal? = some (.number j) := by
  cases left : a.literal? with
  | none =>
    rw [entryValue_of_literal?_eq_none left]
    cases right : b.literal? with
    | none =>
      rw [entryValue_of_literal?_eq_none right]
      simpa using Int.natCast_inj.not.mpr elsewhere
    | some literal =>
      rw [entryValue_of_literal? right]
      simp [eq_comm]
  | some literal =>
    rw [entryValue_of_literal? left]
    cases right : b.literal? with
    | none =>
      rw [entryValue_of_literal?_eq_none right]
      simp
    | some literal' =>
      rw [entryValue_of_literal? right]
      refine iff_of_false ?_ (by simp)
      rintro rfl
      rw [same_of_literal? left right] at different
      cases different

/-! ## All entries -/

/-- No position that stands for the value of a member is a number that another member keeps. -/
def PositionsFree (members : List EnumMember) : Prop :=
  ∀ placed ∈ members.zipIdx, placed.1.value.literal? = none →
    ∀ other ∈ members, other.value.literal? ≠ some (.number placed.2)

instance : DecidablePred PositionsFree := fun members => inferInstanceAs (Decidable
  (∀ placed ∈ members.zipIdx, placed.1.value.literal? = none →
    ∀ other ∈ members, other.value.literal? ≠ some (.number placed.2)))

theorem positionsFree_iff {members : List EnumMember} :
    PositionsFree members ↔ ∀ (position place : Nat) (low : position < members.length)
      (low' : place < members.length), members[position].value.literal? = none →
        members[place].value.literal? ≠ some (.number position) := by
  simp only [PositionsFree, Prod.forall, List.mem_zipIdx_iff_getElem?]
  constructor
  · intro free position place low low' replaced
    exact free _ _ (List.getElem?_eq_getElem low) replaced _ (List.getElem_mem low')
  · intro free member position here replaced other listed
    obtain ⟨low, rfl⟩ := List.getElem?_eq_some_iff.mp here
    obtain ⟨place, low', rfl⟩ := List.getElem_of_mem listed
    exact free position place low low' replaced

@[simp] theorem length_entries (members : List EnumMember) :
    (entries members).length = members.length := List.length_mapIdx

@[simp] theorem getElem?_entries (members : List EnumMember) (position : Nat) :
    (entries members)[position]? =
      members[position]?.map fun member => ⟨member.name, entryValue position member.value⟩ :=
  List.getElem?_mapIdx

theorem map_name_entries (members : List EnumMember) :
    (entries members).map EnumEntry.name = members.map EnumMember.name := by
  refine List.ext_getElem? fun position => ?_
  simp [Function.comp_def]

/-- What is kept of a member is the value of its entry. -/
theorem forall₂_entries (members : List EnumMember) :
    List.Forall₂ (fun member entry => ∀ literal ∈ member.value.literal?, entry.value = literal)
      members (entries members) := by
  rw [List.forall₂_iff_get]
  refine ⟨(length_entries members).symm, fun position low _ literal kept => ?_⟩
  simpa [entries] using entryValue_of_literal? kept

/-- The values of the entries differ exactly if the positions in use are free. -/
theorem nodup_value_entries_iff {members : List EnumMember}
    (apart : members.Pairwise fun member other => member.value.same other.value = false) :
    ((entries members).map EnumEntry.value).Nodup ↔ PositionsFree members := by
  have valued : ∀ {position : Nat} (low : position < members.length),
      ((entries members).map EnumEntry.value)[position]? =
        some (entryValue position members[position].value) := fun low => by
    simp [List.getElem?_eq_getElem low]
  rw [List.nodup_iff_getElem?_ne_getElem?, List.length_map, length_entries, positionsFree_iff]
  rw [List.pairwise_iff_getElem] at apart
  constructor
  · intro distinct position place low low' replaced taken
    have equal : ((entries members).map EnumEntry.value)[position]? =
        ((entries members).map EnumEntry.value)[place]? := by
      rw [valued low, valued low', entryValue_of_literal?_eq_none replaced,
        entryValue_of_literal? taken]
    rcases Nat.lt_trichotomy position place with before | rfl | behind
    · exact distinct _ _ before low' equal
    · rw [replaced] at taken
      cases taken
    · exact distinct _ _ behind low equal.symm
  · intro free i j before low' equal
    have low := Nat.lt_trans before low'
    rw [valued low, valued low', Option.some.injEq,
      entryValue_eq_iff (Nat.ne_of_lt before) (apart i j low low' before)] at equal
    rcases equal with ⟨replaced, taken⟩ | ⟨replaced, taken⟩
    · exact free i j low low' replaced taken
    · exact free j i low' low replaced taken

end Mapping

namespace Mapper

open MappingM (outcome outcome_bind outcome_pure)

variable {Loader State : Type}

/-! ## The declaration -/

/-- A numeric enumeration that no override claims has an entry for each of its members, in order
and under the same name. Texts and whole numbers are kept. When the members have different values,
the entries do so exactly if the positions in use are free. -/
theorem mapType_numericEnumeration (mapper : Mapper Loader State) {host : Host Loader} {s t : State}
    (shape : host.kind = .enumeration) (numeric : mapper.options.enumStyle = .numeric)
    (declined : outcome (mapper.ask mapper.reference host) s = (.ok none, t))
    (apart : host.enumMembers.Pairwise fun member other => member.value.same other.value = false) :
    ∃ values, outcome (mapper.mapType host) s =
        (.ok (.declarations [.enumeration host.identity host.declarationName values]), t) ∧
      values.map EnumEntry.name = host.enumMembers.map EnumMember.name ∧
      List.Forall₂ (fun member entry => ∀ literal ∈ member.value.literal?, entry.value = literal)
        host.enumMembers values ∧
      ((values.map EnumEntry.value).Nodup ↔ Mapping.PositionsFree host.enumMembers) := by
  refine ⟨Mapping.entries host.enumMembers, ?_, Mapping.map_name_entries _,
    Mapping.forall₂_entries _, Mapping.nodup_value_entries_iff apart⟩
  rw [mapType, outcome_bind, declined]
  simp only [shape, numeric, Mapping.enumeration, outcome_pure]

/-- A mapper with the default options that records what it is asked for and has no override. -/
def recording : Mapper Unit Recorder := ⟨{}, .silent, fun _ => .ok [], Recorder.services⟩

/-- An enumeration with the given members. -/
def enumerated (members : List EnumMember) : Host Unit :=
  { kind := .enumeration, fullName := "m.E", name := "E", enumMembers := members }

theorem outcome_ask_recording (host : Host Unit) (s : Recorder) :
    outcome (recording.ask recording.reference host) s = (.ok none, s) := rfl

/-- A whole number, a text, and the number 1.5 at the position 2, which no member keeps. -/
theorem mapType_numericEnumeration_mixed :
    ∃ values, outcome (recording.mapType (enumerated
        [⟨"One", .integer 1⟩, ⟨"Label", .text "label"⟩,
          ⟨"Ratio", .real (.finite false 6755399441055744 (-52))⟩])) {} =
        (.ok (.declarations [.enumeration { fullName := "m.E" } "E" values]), {}) ∧
      values.map EnumEntry.name = ["One", "Label", "Ratio"] ∧
      (values.map EnumEntry.value).Nodup := by
  have apart : [EnumMember.mk "One" (.integer 1), ⟨"Label", .text "label"⟩,
      ⟨"Ratio", .real (.finite false 6755399441055744 (-52))⟩].Pairwise
        fun member other => member.value.same other.value = false := by
    simp only [List.pairwise_cons]
    decide +kernel
  obtain ⟨values, mapped, names, -, distinct⟩ := mapType_numericEnumeration recording (by rfl)
    (by rfl) (outcome_ask_recording (enumerated _) {}) apart
  exact ⟨values, mapped, names, distinct.mpr (by decide)⟩

/-- The number 1.5 at the position 0 and the whole number 0 are different, and both have the value
0 in the declaration. -/
theorem mapType_numericEnumeration_merged :
    EnumValue.same (.real (.finite false 6755399441055744 (-52))) (.integer 0) = false ∧
      outcome (recording.mapType (enumerated
        [⟨"A", .real (.finite false 6755399441055744 (-52))⟩, ⟨"B", .integer 0⟩])) {} =
        (.ok (.declarations [.enumeration { fullName := "m.E" } "E"
          [⟨"A", .number 0⟩, ⟨"B", .number 0⟩]]), {}) :=
  ⟨by decide +kernel, rfl⟩

end Mapper

end TypeContracts
