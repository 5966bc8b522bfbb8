import TypeContracts.Source.World

/-!
# Seeing that classes are equal

Forms and classes have no decidable equality, for they can hold values of any sort. What loading
makes of plain classes can still be compared with the classes that are expected, by looking at no more
than the forms that such classes are made of: type variables, classes and what is applied to
arguments. The comparison gives the equality itself, or nothing.
-/

set_option autoImplicit false

namespace TypeContracts

/-- The equality of two things, where it was seen. -/
abbrev Seen {α : Type} (a b : α) : Type := Option (PLift (a = b))

theorem Seen.eq {α : Type} {a b : α} {seen : Seen a b} (found : seen.isSome = true) : a = b :=
  (seen.get found).down

/-- Lists are equal when their elements are, one by one. -/
def seeEach {α : Type} (see : (a b : α) → Seen a b) : (as bs : List α) → Seen as bs
  | [], [] => some ⟨rfl⟩
  | a :: as, b :: bs => do
    let ⟨first⟩ ← see a b
    let ⟨behind⟩ ← seeEach see as bs
    return ⟨by rw [first, behind]⟩
  | _, _ => none

namespace Form

mutual

/-- Forms are equal that are seen to be the same type variables, classes and applied forms. -/
def see : (form other : Form) → Seen form other
  | .atom (.variable v), .atom (.variable w) => if same : v = w then some ⟨same ▸ rfl⟩ else none
  | .atom (.library c), .atom (.library d) => if same : c = d then some ⟨same ▸ rfl⟩ else none
  | .atom (.contract c), .atom (.contract d) => if same : c = d then some ⟨same ▸ rfl⟩ else none
  | .generic head arguments, .generic head' arguments' =>
    if same : head = head' then do
      let ⟨equal⟩ ← seeAll arguments arguments'
      return ⟨by rw [same, equal]⟩
    else none
  | _, _ => none

def seeAll : (forms others : List Form) → Seen forms others
  | [], [] => some ⟨rfl⟩
  | form :: rest, other :: others => do
    let ⟨first⟩ ← see form other
    let ⟨behind⟩ ← seeAll rest others
    return ⟨by rw [first, behind]⟩
  | _, _ => none

end

/-- Forms with keys are equal when the keys and the forms are. -/
def seeKeyed {α : Type} [DecidableEq α] (entry other : α × Form) : Seen entry other :=
  if same : entry.1 = other.1 then do
    let ⟨equal⟩ ← see entry.2 other.2
    return ⟨Prod.ext same equal⟩
  else none

end Form

namespace ClassRecord

/-- What a class keeps is equal when it keeps the same, and no other value stands in its place. -/
def seeKept {α : Type} (see : (a b : α) → Seen a b) :
    (kept other : Option (Except String α)) → Seen kept other
  | none, none => some ⟨rfl⟩
  | some (.ok a), some (.ok b) => do
    let ⟨equal⟩ ← see a b
    return ⟨by rw [equal]⟩
  | _, _ => none

/-- Classes are equal that are no record classes and no enumerations, and have equal parts. -/
def see : (record other : ClassRecord) → Seen record other
  | ⟨ref, bases, lineage, storage, isOffer, .fields annotations, scope, written, argued,
      none, none⟩,
    ⟨ref', bases', lineage', storage', isOffer', .fields annotations', scope', written', argued',
      none, none⟩ =>
    if same : ref = ref' ∧ bases = bases' ∧ lineage = lineage' ∧ storage = storage' ∧
        isOffer = isOffer' then do
      let ⟨annotated⟩ ← seeEach Form.seeKeyed annotations annotations'
      let ⟨named⟩ ← seeEach Form.seeKeyed scope scope'
      let ⟨based⟩ ← seeKept Form.seeAll written written'
      let ⟨passed⟩ ← seeKept (seeEach Form.seeKeyed) argued argued'
      return ⟨by
        obtain ⟨rfl, rfl, rfl, rfl, rfl⟩ := same
        rw [annotated, named, based, passed]⟩
    else none
  | _, _ => none

end ClassRecord

end TypeContracts
