import TypeContracts.Proofs.Result
import TypeContracts.Source.Hint

/-!
# The annotation that counts

The annotations of a class are read along its lineage, the farthest ancestor first, and each class
puts its own in the place of those behind it. So the annotation of a name is the one of the nearest
class in the lineage that annotates it, as it is read there (`World.exists_annotates`).
-/

set_option autoImplicit false

namespace TypeContracts

open Result

namespace Scope

theorem lookup_cons_of_ne {scope : Scope} {key other : String} (differs : other ≠ key)
    (value : Form) : List.lookup other ((key, value) :: scope) = scope.lookup other := by
  rw [List.lookup_cons, show (other == key) = false by simpa using differs]

/-- A definition changes nothing of the other names. -/
theorem find?_assign_of_ne {scope : Scope} {name other : String} (differs : other ≠ name)
    (form : Form) : (scope.assign name form).find? other = scope.find? other := by
  unfold assign find?
  split
  next known =>
    clear known
    induction scope with
    | nil => rfl
    | cons entry rest ih =>
      obtain ⟨key, value⟩ := entry
      rw [List.map_cons]
      by_cases same : key = name
      · subst same
        rw [if_pos rfl, lookup_cons_of_ne differs, lookup_cons_of_ne differs, ih]
      · rw [if_neg same, List.lookup_cons, List.lookup_cons, ih]
  next => rw [List.lookup_append, lookup_cons_of_ne differs, List.lookup_nil, Option.or_none]

/-- A definition in a scope that stands in front of another one is a definition in both. -/
theorem find?_assign_or {whole front behind : Scope}
    (before : ∀ name, whole.find? name = (front.find? name).or (behind.find? name))
    (name : String) (form : Form) (other : String) :
    (whole.assign name form).find? other =
      ((front.assign name form).find? other).or (behind.find? other) := by
  by_cases same : other = name
  · subst same
    rw [find?_assign, find?_assign, Option.some_or]
  · rw [find?_assign_of_ne same, find?_assign_of_ne same, before]

/-- Definitions in a scope that stands in front of another one are definitions in both. -/
theorem find?_of_foldlM_assign {read : Form → Formed} {annotations whole front behind found : Scope}
    (before : ∀ name, whole.find? name = (front.find? name).or (behind.find? name))
    (defined : annotations.foldlM
      (fun known entry => do return known.assign entry.1 (← read entry.2)) whole = .ok found) :
    ∃ own, annotations.foldlM
        (fun known entry => do return known.assign entry.1 (← read entry.2)) front = .ok own ∧
      ∀ name, found.find? name = (own.find? name).or (behind.find? name) := by
  induction annotations generalizing whole front with
  | nil =>
    cases defined
    exact ⟨front, rfl, before⟩
  | cons entry rest ih =>
    rw [List.foldlM_cons] at defined
    obtain ⟨whole', assigned, defined⟩ := bind_eq_ok_iff.mp defined
    obtain ⟨form, formed, same⟩ := bind_eq_ok_iff.mp assigned
    cases same
    obtain ⟨own, later, found⟩ := ih (find?_assign_or before entry.1 form) defined
    exact ⟨own, by rw [List.foldlM_cons, formed]; exact later, found⟩

/-- What a name stands for in a scope whose forms were changed one by one. -/
theorem find?_of_mapM {change : Form → Formed} {scope changed : Scope}
    (traversed : scope.mapM (fun entry => do return (entry.1, ← change entry.2)) = .ok changed)
    {name : String} {form : Form} (found : changed.find? name = some form) :
    ∃ before, scope.find? name = some before ∧ change before = .ok form := by
  induction scope generalizing changed with
  | nil =>
    cases traversed
    cases found
  | cons entry rest ih =>
    rw [List.mapM_cons] at traversed
    obtain ⟨first, here, traversed⟩ := bind_eq_ok_iff.mp traversed
    obtain ⟨others, behind, same⟩ := bind_eq_ok_iff.mp traversed
    obtain ⟨value, formed, same'⟩ := bind_eq_ok_iff.mp here
    cases same
    cases same'
    obtain ⟨key, written⟩ := entry
    by_cases own : name = key
    · subst own
      rw [find?, List.lookup_cons_self] at found
      cases found
      exact ⟨written, List.lookup_cons_self, formed⟩
    · rw [find?, lookup_cons_of_ne own] at found
      rw [find?, lookup_cons_of_ne own]
      exact ih behind found

end Scope

namespace World

variable {world : World} {record : ClassRecord}

/-- The own annotations of a class stand in front of those that are known. -/
theorem find?_of_ownHints {known found : Scope} (read : world.ownHints known record = .ok found) :
    ∃ own, world.ownHints [] record = .ok own ∧
      ∀ name, found.find? name = (own.find? name).or (known.find? name) := by
  unfold ownHints at read ⊢
  simp only at read ⊢
  split at read
  · cases read
  · exact Scope.find?_of_foldlM_assign (fun name => rfl) read

/-- Among some classes, the nearest one first, `owner` is the first that annotates a name, and its
annotation is read as the form `hint`. -/
def Annotates (world : World) (records : List ClassRecord) (name : String) (owner : ClassRecord)
    (hint : Form) : Prop :=
  ∃ nearer farther own read, records = nearer ++ owner :: farther ∧
    (∀ other ∈ nearer, ∃ hints, world.ownHints [] other = .ok hints ∧ hints.find? name = none) ∧
    world.ownHints [] owner = .ok own ∧ own.find? name = some read ∧ read.plain = .ok hint

theorem Annotates.mem {records : List ClassRecord} {name : String} {owner : ClassRecord}
    {hint : Form} (annotates : world.Annotates records name owner hint) : owner ∈ records := by
  obtain ⟨nearer, farther, _, _, rfl, _⟩ := annotates
  exact List.mem_append_right nearer List.mem_cons_self

/-- What is found for a name along a lineage is the annotation of the nearest class. -/
theorem exists_annotates_of_foldlM {records : List ClassRecord} {found : Scope}
    (read : records.reverse.foldlM world.ownHints [] = .ok found) {name : String}
    {form hint : Form} (known : found.find? name = some form) (plain : form.plain = .ok hint) :
    ∃ owner, world.Annotates records name owner hint := by
  induction records generalizing found with
  | nil =>
    cases read
    cases known
  | cons record rest ih =>
    rw [List.reverse_cons, List.foldlM_append] at read
    obtain ⟨behind, later, read⟩ := bind_eq_ok_iff.mp read
    rw [List.foldlM_cons] at read
    obtain ⟨_, here, same⟩ := bind_eq_ok_iff.mp read
    cases same
    obtain ⟨own, hints, whole⟩ := find?_of_ownHints here
    rw [whole] at known
    rcases told : own.find? name with _ | written
    · rw [told, Option.none_or] at known
      obtain ⟨owner, nearer, farther, own', read, same, before, owned⟩ := ih later known
      exact ⟨owner, record :: nearer, farther, own', read, by rw [same, List.cons_append],
        List.forall_mem_cons.mpr ⟨⟨own, hints, told⟩, before⟩, owned⟩
    · rw [told, Option.some_or, Option.some.injEq] at known
      subst known
      exact ⟨record, [], rest, own, written, rfl, List.forall_mem_nil _, hints, told, plain⟩

/-- The hint of a name is the annotation of the nearest class in the lineage that annotates it. -/
theorem exists_annotates {hints : Scope} (read : world.hints record = .ok hints) {name : String}
    {hint : Form} (known : hints.find? name = some hint) :
    ∃ owner, world.Annotates (world.records record.lineage) name owner hint := by
  rw [World.hints] at read
  obtain ⟨found, along, read⟩ := bind_eq_ok_iff.mp read
  obtain ⟨form, here, plain⟩ := Scope.find?_of_mapM read known
  exact exists_annotates_of_foldlM along here plain

end World

end TypeContracts
