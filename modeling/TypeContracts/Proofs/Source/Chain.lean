import TypeContracts.Proofs.Source.Loading
import TypeContracts.Source.Description

/-!
# What bases pass to ancestors

A class is reached from another one along a chain of bases. A base that is applied passes arguments
for the type parameters of its class, described with what the chain has passed before; a plain base
passes nothing (`World.Passes`).

The arguments for the members of a class are told by another route: a class that keeps its bases as
they are written tells what it passes to those that are applied, with what these tell in turn, and a
class that keeps none tells what its nearest ancestor tells. `World.Coherent` collects what it takes
for this list of arguments to stand for all chains. The list has one place for a type variable, so
that no two types may be passed for it (`agree`). It leaves out the plain bases of a class that
keeps its bases as they are written, and all plain bases but one of a class that keeps none
(`shown`).
-/

set_option autoImplicit false

namespace TypeContracts

open Result

/-! ## What bases pass on -/

namespace ClassRecord

/-- The bases of a class that are applied to arguments. -/
def applied (record : ClassRecord) : List (ClassRef × List Form) :=
  match record.written with
  | some (.ok forms) =>
    forms.filterMap fun form =>
      match form with
      | .generic (.contract c) arguments => some (c, arguments)
      | _ => none
  | _ => []

/-- The type parameters of the bases of a class with the arguments that it passes for them. -/
def passed (record : ClassRecord) : List (TypeVariable × Form) :=
  record.applied.flatMap fun base => base.1.parameters.zip base.2

/-- A class is derived from the class of a number as it is, without arguments. -/
def IsPlainBase (record : ClassRecord) (number : Nat) : Prop :=
  .contract number ∈ record.bases ∧ ∀ base ∈ record.applied, base.1.number ≠ number

theorem mem_applied {record : ClassRecord} {c : ClassRef} {arguments : List Form} :
    (c, arguments) ∈ record.applied ↔
      ∃ forms, record.written = some (.ok forms) ∧ .generic (.contract c) arguments ∈ forms := by
  unfold applied
  split
  next forms written =>
    simp only [written, Option.some.injEq, Except.ok.injEq, exists_eq_left', List.mem_filterMap]
    constructor
    · rintro ⟨form, member, found⟩
      split at found <;> cases found
      exact member
    · exact fun member => ⟨_, member, rfl⟩
  next other =>
    simp only [List.not_mem_nil, false_iff]
    rintro ⟨forms, written, _⟩
    exact other forms written

theorem mem_passed {record : ClassRecord} {c : ClassRef} {arguments : List Form}
    (base : (c, arguments) ∈ record.applied) {entry : TypeVariable × Form}
    (member : entry ∈ c.parameters.zip arguments) : entry ∈ record.passed :=
  List.mem_flatMap.mpr ⟨_, base, member⟩

end ClassRecord

namespace World

open Description

variable {world : World} {record parent ancestor : ClassRecord} {own scope : TypeScope}

/-- Arguments for type parameters, described in a scope. -/
def describePassed (world : World) (scope : TypeScope) (entries : List (TypeVariable × Form)) :
    Except Fault TypeScope :=
  entries.mapM fun entry => do return (entry.1, ← ofForm world scope entry.2)

/-- The chains of bases from a class, whose own type parameters stand for what is in `own`, to its
ancestors, each with what the chain passes for the type parameters of the ancestor. -/
inductive Passes (world : World) (record : ClassRecord) (own : TypeScope) :
    ClassRecord → TypeScope → Prop
  | own : Passes world record own record own
  | applied {parent ancestor : ClassRecord} {scope passed : TypeScope} {c : ClassRef}
    {arguments : List Form} (chain : Passes world record own parent scope)
    (base : (c, arguments) ∈ parent.applied)
    (described : world.describePassed scope (c.parameters.zip arguments) = .ok passed)
    (known : world.record? c = some ancestor) : Passes world record own ancestor passed
  | plain {parent ancestor : ClassRecord} {scope : TypeScope} {number : Nat}
    (chain : Passes world record own parent scope) (base : parent.IsPlainBase number)
    (known : world.classes[number]? = some ancestor) : Passes world record own ancestor []

/-- A type variable stands for a type on some chain: it is one of the class itself, or an argument
is passed for it. -/
inductive Means (world : World) (record : ClassRecord) (own : TypeScope) (v : TypeVariable)
    (host : Host ClassLoader) : Prop
  | own (bound : own.lookup v = some host)
  | passed {parent : ClassRecord} {scope : TypeScope} {argument : Form}
    (chain : Passes world record own parent scope) (entry : (v, argument) ∈ parent.passed)
    (described : ofForm world scope argument = .ok host)

/-- The chains from a class can be told from one scope of all type variables. -/
structure Coherent (world : World) (record : ClassRecord) (own : TypeScope) : Prop where
  /-- A class passes on only type variables that have been given an argument. -/
  given : ∀ {parent scope}, world.Passes record own parent scope →
    ∀ entry ∈ parent.passed, ∀ v ∈ entry.2.typeVariables, (scope.lookup v).isSome
  /-- No type variable stands for two types. -/
  agree : ∀ {parent scope}, world.Passes record own parent scope →
    ∀ entry ∈ parent.passed, ∀ host, world.Means record own entry.1 host →
      ofForm world scope entry.2 = .ok host
  /-- A class tells what its plain bases tell, as far as they tell anything. -/
  shown : ∀ {parent scope number ancestor}, world.Passes record own parent scope →
    parent.IsPlainBase number → world.classes[number]? = some ancestor →
      world.baseArguments ancestor = .ok [] ∨
        world.baseArguments ancestor = world.baseArguments parent

/-! ## The arguments behind a class -/

theorem Passes.mem (member : record ∈ world.classes)
    (chain : world.Passes record own ancestor scope) : ancestor ∈ world.classes := by
  cases chain with
  | own => exact member
  | applied _ _ _ known => exact mem_of_record? known
  | plain _ _ known => exact mem_of_record? known

/-- The first answer along a lineage is asked of one ancestor after another. -/
theorem inherited?_eq {α : Type} (lineage : List Ancestor) (answer : ClassRecord → Option α) :
    world.inherited? lineage answer =
      lineage.findSome? fun ancestor => (ancestor.record? world).bind answer := by
  rw [inherited?, records, ← List.head?_filterMap, List.filterMap_filterMap, List.head?_filterMap]

/-- A class is asked first, and then its ancestors. -/
theorem inherited?_lineage {α : Type} (sound : world.Sound) (member : record ∈ world.classes)
    (answer : ClassRecord → Option α) :
    ∃ ancestors, Lineage.ofBases (Ancestor.lineage world) record.bases = .ok ancestors ∧
      world.inherited? record.lineage answer =
        (answer record).or (world.inherited? ancestors answer) := by
  obtain ⟨ancestors, merged, lineage⟩ := (sound.records record member).inherits
  have own : Ancestor.record? world (.contract record.ref.number) = some record :=
    sound.found member
  refine ⟨ancestors, merged, ?_⟩
  rw [lineage, inherited?_eq, inherited?_eq, List.findSome?_cons, own, Option.bind_some]
  cases answer record <;> rfl

/-- A class that keeps its bases as they are written tells their arguments. -/
theorem baseArguments_of_written (sound : world.Sound) (member : record ∈ world.classes)
    {written : Except String (List Form)} (kept : record.written = some written) :
    world.baseArguments record = written >>= Bases.allArguments world := by
  obtain ⟨ancestors, _, asked⟩ := inherited?_lineage sound member ClassRecord.argued
  have argued := (sound.records record member).argued
  rw [kept, Option.map_some] at argued
  rw [baseArguments, asked, argued]
  rfl

/-- The lineage of a class starts with it. -/
theorem Sound.head?_lineage (sound : world.Sound) {base : Ancestor}
    (below : base.Below world.classes.size) : (base.lineage world).head? = some base := by
  cases base with
  | library c => rw [Ancestor.lineage, List.head?_map, LibraryClass.head?_lineage, Option.map_some]
  | contract number =>
    obtain ⟨ancestors, _, lineage⟩ := (sound.records _ (Array.getElem_mem below)).inherits
    rw [Ancestor.lineage, Array.getElem?_eq_getElem below, Option.map_some, Option.getD_some,
      lineage, sound.numbered number _ (Array.getElem?_eq_getElem below)]
    rfl

/-- What a class tells that keeps no bases of its own is what one of its bases tells. -/
theorem exists_base_of_written (sound : world.Sound) (member : record ∈ world.classes)
    (written : record.written = none) {entries : List (TypeVariable × Form)} (more : entries ≠ [])
    (told : world.baseArguments record = .ok entries) :
    ∃ number ancestor, record.IsPlainBase number ∧ world.classes[number]? = some ancestor ∧
      world.baseArguments ancestor = .ok entries := by
  have here := sound.records record member
  obtain ⟨ancestors, merged, asked⟩ := inherited?_lineage sound member ClassRecord.argued
  rw [baseArguments, asked, here.argued, written, Option.map_none, Option.none_or,
    inherited?_eq] at told
  rcases first : ancestors.findSome? fun ancestor =>
    (ancestor.record? world).bind ClassRecord.argued with _ | answer <;> rw [first] at told
  · exact absurd (Except.ok.inj told).symm more
  obtain rfl : answer = .ok entries := told
  have heads : ∀ base ∈ record.bases, (base.lineage world).head? = some base :=
    fun base inside => sound.head?_lineage
      ((here.bases base inside).mono (Nat.le_of_lt (sound.lt_size member)))
  obtain ⟨base, inside, answered⟩ := Lineage.findSome?_of_ofBases heads ancestors merged first
  cases base with
  | library c =>
    obtain ⟨other, among, told⟩ := List.exists_of_findSome?_eq_some answered
    obtain ⟨l, _, rfl⟩ := List.mem_map.mp among
    cases told
  | contract number =>
    obtain ⟨ancestor, known, _⟩ := sound.exists_of_base member inside
    refine ⟨number, ancestor, ⟨inside, ?_⟩, known, ?_⟩
    · rw [ClassRecord.applied, written]
      exact List.forall_mem_nil _
    · rw [Ancestor.lineage, known, Option.map_some, Option.getD_some] at answered
      rw [baseArguments, inherited?_eq, answered, Option.getD_some]

/-- What a class passes to a base is among what the class tells, and so is what the base tells. -/
theorem exists_behind (sound : world.Sound) (member : record ∈ world.classes) {c : ClassRef}
    {arguments : List Form} (base : (c, arguments) ∈ record.applied)
    {entries : List (TypeVariable × Form)} (told : world.baseArguments record = .ok entries) :
    ∃ behind, Bases.behind world c = .ok behind ∧
      c.parameters.zip arguments ++ behind ⊆ entries := by
  obtain ⟨forms, written, inside⟩ := ClassRecord.mem_applied.mp base
  rw [baseArguments_of_written sound member written] at told
  obtain ⟨lists, traversed, same⟩ :=
    bind_eq_ok_iff.mp (show Bases.allArguments world forms = _ from told)
  cases same
  obtain ⟨list, among, here⟩ := exists_of_mem_inputs traversed inside
  rw [Bases.argumentsOf] at here
  cases later : Bases.behind world c with
  | error sort =>
    rw [later] at here
    cases here
  | ok behind =>
    rw [later] at here
    cases here
    exact ⟨behind, rfl, fun entry member => List.mem_flatten.mpr ⟨_, among, member⟩⟩

/-- All that is told behind a chain is told by the class that it starts from. -/
theorem Passes.exists_told (sound : world.Sound) (member : record ∈ world.classes)
    (coherent : world.Coherent record own) {entries : List (TypeVariable × Form)}
    (told : world.baseArguments record = .ok entries)
    (chain : world.Passes record own ancestor scope) :
    ∃ behind, world.baseArguments ancestor = .ok behind ∧ behind ⊆ entries := by
  induction chain with
  | own => exact ⟨entries, told, List.Subset.refl _⟩
  | @applied parent ancestor scope passed c arguments chain base _ known ih =>
    obtain ⟨here, told, among⟩ := ih
    obtain ⟨behind, later, inside⟩ := exists_behind sound (chain.mem member) base told
    rw [Bases.behind, known] at later
    exact ⟨behind, later, fun entry member => among (inside (List.mem_append_right _ member))⟩
  | @plain parent ancestor scope number chain base known ih =>
    obtain ⟨here, told, among⟩ := ih
    rcases coherent.shown chain base known with none | same
    · exact ⟨[], none, List.nil_subset _⟩
    · exact ⟨here, same.trans told, among⟩

/-- What a class on a chain passes on is told by the class that the chain starts from. -/
theorem Passes.mem_told (sound : world.Sound) (member : record ∈ world.classes)
    (coherent : world.Coherent record own) {entries : List (TypeVariable × Form)}
    (told : world.baseArguments record = .ok entries)
    (chain : world.Passes record own parent scope) : parent.passed ⊆ entries := by
  intro entry passed
  obtain ⟨⟨c, arguments⟩, base, inside⟩ := List.mem_flatMap.mp passed
  obtain ⟨here, told, among⟩ := chain.exists_told sound member coherent told
  obtain ⟨behind, _, all⟩ := exists_behind sound (chain.mem member) base told
  exact among (all (List.mem_append_left _ inside))

end World

end TypeContracts
