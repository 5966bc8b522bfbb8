import TypeContracts.Proofs.Source.Bases
import TypeContracts.Source.Definition

/-!
# The classes of a world

A world is sound when its classes stand at their numbers and mention, in their bodies, their
annotations and their bases, only classes that the world has: those of their bases and their
lineages were there before them. A class that is defined in a sound world makes a sound world
(`World.Sound.add`), and leaves all other classes as they are.
-/

set_option autoImplicit false

namespace TypeContracts

open Result

namespace World

variable {world later : World}

/-! ## Worlds that grow -/

/-- The world has the class, with the record that it was defined with. -/
def Knows (world : World) (c : ClassRef) : Prop :=
  ∃ record, world.record? c = some record ∧ record.ref = c

/-- The later world has all classes of the world, each at its number. -/
def Extends (world later : World) : Prop :=
  ∀ (number : Nat) (record : ClassRecord),
    world.classes[number]? = some record → later.classes[number]? = some record

theorem Extends.refl (world : World) : world.Extends world := fun _ _ found => found

theorem Extends.trans {last : World} (first : world.Extends later) (second : later.Extends last) :
    world.Extends last :=
  fun number record found => second number record (first number record found)

theorem Extends.knows (extended : world.Extends later) (c : ClassRef) (known : world.Knows c) :
    later.Knows c := by
  obtain ⟨record, found, same⟩ := known
  exact ⟨record, extended _ _ found, same⟩

theorem lt_size {number : Nat} {record : ClassRecord}
    (found : world.classes[number]? = some record) : number < world.classes.size :=
  (Array.getElem?_eq_some_iff.mp found).1

theorem Knows.lt_size {c : ClassRef} (known : world.Knows c) : c.number < world.classes.size := by
  obtain ⟨record, found, _⟩ := known
  exact World.lt_size found

/-- The classes of the first numbers are the same in the later world. -/
theorem Extends.getElem? (extended : world.Extends later) {number : Nat}
    (inside : number < world.classes.size) : later.classes[number]? = world.classes[number]? := by
  have found := Array.getElem?_eq_getElem inside
  rw [found]
  exact extended _ _ found

theorem Extends.record? (extended : world.Extends later) {c : ClassRef} (known : world.Knows c) :
    later.record? c = world.record? c :=
  extended.getElem? known.lt_size

/-- Lineages of classes of the world have the same records in the later world. -/
theorem Extends.records (extended : world.Extends later) {lineage : List Ancestor}
    (below : ∀ ancestor ∈ lineage, ancestor.Below world.classes.size) :
    later.records lineage = world.records lineage := by
  refine List.filterMap_congr fun ancestor member => ?_
  cases ancestor with
  | library c => rfl
  | contract number => exact extended.getElem? (below _ member)

/-- A class of the world has the same lineage in the later world. -/
theorem Extends.lineage (extended : world.Extends later) {base : Ancestor}
    (below : base.Below world.classes.size) : base.lineage later = base.lineage world := by
  cases base with
  | library c => rfl
  | contract number => rw [Ancestor.lineage, Ancestor.lineage, extended.getElem? below]

/-- What a class inherits is the same in the later world. -/
theorem Extends.ofBases (extended : world.Extends later) {bases : List Ancestor}
    (below : ∀ base ∈ bases, base.Below world.classes.size) :
    Lineage.ofBases (Ancestor.lineage later) bases =
      Lineage.ofBases (Ancestor.lineage world) bases := by
  rw [Lineage.ofBases, Lineage.ofBases,
    List.map_congr_left fun base member => extended.lineage (below base member)]

end World

/-! ## Soundness -/

/-- A class that is among the first ones is among more of them. -/
theorem Ancestor.Below.mono {count more : Nat} (fewer : count ≤ more) {a : Ancestor}
    (below : a.Below count) : a.Below more := by
  cases a with
  | library c => trivial
  | contract number => exact Nat.lt_of_lt_of_le below fewer

/-- The lineage of a class is the class with the ancestors that its bases bring in. -/
def ClassRecord.Inherits (world : World) (record : ClassRecord) : Prop :=
  ∃ ancestors, Lineage.ofBases (Ancestor.lineage world) record.bases = .ok ancestors ∧
    record.lineage = .contract record.ref.number :: ancestors

/-- A class mentions only classes of the world, and its lineage and its bases only those that
were there before. -/
structure ClassRecord.Sound (world : World) (record : ClassRecord) : Prop where
  covered : record.Over world.Knows
  bases : ∀ base ∈ record.bases, base.Below record.ref.number
  lineage : ∀ ancestor ∈ record.lineage, ancestor.Below (record.ref.number + 1)
  inherits : record.Inherits world
  written : ∀ forms, record.written = some (.ok forms) →
    ∀ form ∈ forms, form.Over fun c => world.Knows c ∧ c.number < record.ref.number
  argued : record.argued = record.written.map fun written => written >>= Bases.allArguments world

namespace World

/-- All classes of the world are sound, and its modules mention only these. -/
structure Sound (world : World) : Prop where
  numbered : ∀ (number : Nat) (record : ClassRecord),
    world.classes[number]? = some record → record.ref.number = number
  records : ∀ record ∈ world.classes, record.Sound world
  scopes : ∀ entry ∈ world.modules, entry.2.scope.Over world.Knows

variable {world later : World}

theorem sound_empty : Sound {} where
  numbered number record found := by simp at found
  records record member := by simp at member
  scopes := nofun

theorem Sound.covered (sound : world.Sound) : world.Over world.Knows where
  records record member := (sound.records record member).covered
  scopes := sound.scopes

/-- A class stands at its number. -/
theorem Sound.found (sound : world.Sound) {record : ClassRecord} (member : record ∈ world.classes) :
    world.classes[record.ref.number]? = some record := by
  obtain ⟨number, found⟩ := Array.getElem?_of_mem member
  rwa [sound.numbered number record found]

theorem Sound.lt_size (sound : world.Sound) {record : ClassRecord}
    (member : record ∈ world.classes) : record.ref.number < world.classes.size :=
  World.lt_size (sound.found member)

/-- The class of a record is known. -/
theorem Sound.knows (sound : world.Sound) {record : ClassRecord} (member : record ∈ world.classes) :
    world.Knows record.ref :=
  ⟨record, sound.found member, rfl⟩

/-- A base of a class was there before it. -/
theorem Sound.exists_of_base (sound : world.Sound) {record : ClassRecord}
    (member : record ∈ world.classes) {number : Nat} (base : .contract number ∈ record.bases) :
    ∃ ancestor, world.classes[number]? = some ancestor ∧
      ancestor.ref.number < record.ref.number := by
  have below : number < record.ref.number := (sound.records record member).bases _ base
  have known := Array.getElem?_eq_getElem (Nat.lt_trans below (sound.lt_size member))
  exact ⟨_, known, Nat.lt_of_le_of_lt (Nat.le_of_eq (sound.numbered number _ known)) below⟩

theorem Sound.below_lineage (sound : world.Sound) {record : ClassRecord}
    (member : record ∈ world.classes) :
    ∀ ancestor ∈ record.lineage, ancestor.Below world.classes.size := by
  intro ancestor inside
  exact ((sound.records record member).lineage ancestor inside).mono (sound.lt_size member)

theorem Extends.baseArguments (extended : world.Extends later) (sound : world.Sound)
    {record : ClassRecord} (member : record ∈ world.classes) :
    later.baseArguments record = world.baseArguments record := by
  rw [World.baseArguments, World.inherited?, extended.records (sound.below_lineage member)]
  rfl

/-- The arguments of bases are the same in the later world. -/
theorem Extends.allArguments (extended : world.Extends later) (sound : world.Sound)
    {bases : List Form} (covered : ∀ base ∈ bases, base.Over world.Knows) :
    Bases.allArguments later bases = Bases.allArguments world bases := by
  have one : ∀ base ∈ bases, Bases.argumentsOf later base = Bases.argumentsOf world base := by
    intro base member
    unfold Bases.argumentsOf
    split
    next c arguments =>
      have here := covered _ member
      rw [Form.Over] at here
      rw [Bases.behind, Bases.behind, extended.record? here.1]
      split
      next record found => rw [extended.baseArguments sound (mem_of_record? found)]
      next => rfl
    next => rfl
  rw [Bases.allArguments, Bases.allArguments, mapM_congr one]

end World

/-- A sound class stays sound when classes are added. -/
theorem ClassRecord.Sound.mono {world later : World} (extended : world.Extends later)
    (sound : world.Sound) {record : ClassRecord} (here : record.Sound world)
    (early : record.ref.number ≤ world.classes.size) : record.Sound later where
  covered := here.covered.mono extended.knows
  bases := here.bases
  lineage := here.lineage
  inherits := by
    obtain ⟨ancestors, merged, same⟩ := here.inherits
    have below : ∀ base ∈ record.bases, base.Below world.classes.size :=
      fun base member => (here.bases base member).mono early
    exact ⟨ancestors, (extended.ofBases below).trans merged, same⟩
  written forms kept form member :=
    (here.written forms kept form member).mono fun c known => ⟨extended.knows c known.1, known.2⟩
  argued := by
    rw [here.argued]
    rcases written : record.written with _ | _ | forms
    · rfl
    · rfl
    · have covered : ∀ form ∈ forms, form.Over world.Knows := fun form member =>
        (here.written forms written form member).mono fun _ known => known.1
      exact congrArg some (extended.allArguments sound covered).symm

namespace World

variable {world later : World}

theorem extends_of_classes (same : later.classes = world.classes) : world.Extends later :=
  fun _ _ found => same ▸ found

/-- A sound world stays sound when its modules name what it has. -/
theorem Sound.renamed (sound : world.Sound) (same : later.classes = world.classes)
    (scopes : ∀ entry ∈ later.modules, entry.2.scope.Over world.Knows) : later.Sound where
  numbered := same ▸ sound.numbered
  records record member :=
    (sound.records record (same ▸ member)).mono (extends_of_classes same) sound
      (Nat.le_of_lt (sound.lt_size (same ▸ member)))
  scopes entry member := (scopes entry member).mono (extends_of_classes same).knows

/-- The world with one more class. -/
def add (world : World) (record : ClassRecord) : World :=
  { world with classes := world.classes.push record }

theorem extends_add (world : World) (record : ClassRecord) : world.Extends (world.add record) := by
  intro number known found
  rw [add, Array.getElem?_push_lt (lt_size found), ← found]
  exact (Array.getElem?_eq_getElem _).symm

theorem getElem?_add {record known : ClassRecord} {number : Nat}
    (found : (world.add record).classes[number]? = some known) :
    number = world.classes.size ∧ known = record ∨ world.classes[number]? = some known := by
  rw [add, Array.getElem?_push] at found
  split at found
  next last => exact .inl ⟨last, (Option.some.inj found).symm⟩
  next => exact .inr found

end World

/-! ## Making a class -/

namespace Definition

variable {world : World}

/-- A class in the making has the next number, and mentions only what is there. -/
structure Framed (world : World) (record : ClassRecord) : Prop where
  number : record.ref.number = world.classes.size
  covered : record.Over world.Knows
  bases : ∀ base ∈ record.bases, base.Below record.ref.number
  lineage : ∀ ancestor ∈ record.lineage, ancestor.Below (record.ref.number + 1)
  inherits : record.Inherits world

/-- A class that is made keeps its bases as they are written, with their arguments. -/
structure Made (world : World) (record : ClassRecord) : Prop extends Framed world record where
  written : ∀ forms, record.written = some (.ok forms) → ∀ form ∈ forms, form.Over world.Knows
  argued : record.argued = record.written.map fun written => written >>= Bases.allArguments world

theorem over_withSlots {name : String} {best : Ancestor} {taken : List String} {assigned : Scope}
    {p : ClassRef → Prop} (covered : assigned.Over p) :
    Yields (withSlots world name best taken assigned) fun slots => slots.1.Over p := by
  have told : ∀ names : List String,
      (names.foldl (fun scope name => scope.assign name (slotForm name)) assigned).Over p := by
    intro names
    induction names generalizing assigned with
    | nil => exact covered
    | cons first rest ih => exact ih (covered.assign trivial)
  unfold withSlots
  split
  · exact yields_ok.mpr covered
  · intro slots found
    obtain ⟨names, _, found⟩ := bind_eq_ok_iff.mp found
    simp only at found
    split at found
    · cases found
    · cases found
      exact told _

theorem framed_frameOf {surroundings : Surroundings} {name path : String} {metaclass : Metaclass}
    {bases : List Ancestor} {taken : List String} {assigned annotations : Scope}
    (sound : world.Sound) (below : ∀ base ∈ bases, base.Below world.classes.size)
    (bodied : assigned.Over world.Knows) (annotated : annotations.Over world.Knows) :
    Yields (frameOf world surroundings name path metaclass bases taken assigned annotations)
      (Framed world) := by
  have closed : ∀ base ∈ bases, ∀ ancestor ∈ base.lineage world,
      ancestor.Below world.classes.size := by
    intro base member ancestor inside
    cases base with
    | library c =>
      obtain ⟨l, _, rfl⟩ := List.mem_map.mp inside
      trivial
    | contract number =>
      rw [Ancestor.lineage, Array.getElem?_eq_getElem (below _ member)] at inside
      exact sound.below_lineage (Array.getElem_mem _) ancestor inside
  intro record found
  unfold frameOf at found
  obtain ⟨best, _, found⟩ := bind_eq_ok_iff.mp found
  obtain ⟨⟨scope, hasSlots⟩, slotted, found⟩ := bind_eq_ok_iff.mp found
  obtain ⟨_, _, found⟩ := bind_eq_ok_iff.mp found
  obtain ⟨ancestors, merged, found⟩ := bind_eq_ok_iff.mp found
  cases found
  have covered : scope.Over world.Knows := over_withSlots bodied _ slotted
  have above := Bases.below_ancestors below closed _ merged
  refine ⟨rfl, ⟨covered, ?_, nofun⟩, below, ?_, ancestors, Bases.ofBases_of_ancestors merged, rfl⟩
  · intro fields kept
    rcases stood : scope.find? annotationsName with _ | value <;> rw [stood] at kept <;> cases kept
    exact annotated
  · rw [List.forall_mem_cons]
    exact ⟨Nat.lt_succ_self _, fun ancestor member => (above ancestor member).mono (Nat.le_succ _)⟩

theorem Framed.withMembers {record : ClassRecord} (framed : Framed world record)
    (style : Option EnumerationStyle) (counted : Option Enumeration.Body) :
    Yields (withMembers record style counted) (Framed world) := by
  unfold Definition.withMembers
  split
  · intro made found
    obtain ⟨members, _, found⟩ := bind_eq_ok_iff.mp found
    cases found
    refine ⟨framed.number, ⟨Scope.Over.erase ?_, framed.covered.annotations, framed.covered.argued⟩,
      framed.bases, framed.lineage, framed.inherits⟩
    have named : ∀ (list : List (String × EnumMember)) (scope : Scope), scope.Over world.Knows →
        (list.foldl (fun scope entry =>
          scope.assign entry.1 (World.memberForm record.ref members entry.2)) scope).Over
            world.Knows := by
      intro list
      induction list with
      | nil => exact fun _ covered => covered
      | cons first rest ih => exact fun scope covered => ih _ (covered.assign trivial)
    exact named _ _ framed.covered.scope
  · exact yields_ok.mpr framed

theorem Framed.withParameters {record : ClassRecord} (framed : Framed world record)
    (sound : world.Sound) {bases : List Form} (covered : ∀ base ∈ bases, base.Over world.Knows) :
    Yields (withParameters world record bases) (Made world) := by
  have written : ∀ forms, writtenOf bases record.scope = some (.ok forms) →
      ∀ form ∈ forms, form.Over world.Knows := by
    intro forms kept
    unfold writtenOf at kept
    split at kept
    · cases kept
      exact covered
    · obtain ⟨value, _, kept⟩ := Option.map_eq_some_iff.mp kept
      split at kept <;> cases kept
      exact nofun
  intro made found
  unfold Definition.withParameters at found
  obtain ⟨_, _, found⟩ := bind_eq_ok_iff.mp found
  obtain ⟨parameters, _, found⟩ := bind_eq_ok_iff.mp found
  obtain ⟨_, _, found⟩ := bind_eq_ok_iff.mp found
  cases found
  refine ⟨⟨framed.number, ⟨?_, framed.covered.annotations, ?_⟩, framed.bases, framed.lineage,
    framed.inherits⟩, written, rfl⟩
  · simp only
    split
    · exact framed.covered.scope.erase
    · exact framed.covered.scope
  · intro entries kept
    obtain ⟨forms | forms, stood, kept⟩ := Option.map_eq_some_iff.mp kept
    · cases kept
    · exact Bases.over_allArguments sound.covered (written forms stood) entries kept

/-- What is made of a body and bases mentions only what these mention. The bases were resolved in
the world before the classes nested in the body were added. -/
theorem made_recordOf {earlier : World} {surroundings : Surroundings} {name path : String}
    {bases : List Form}
    {resolved : List Bases.Base} {style : Option EnumerationStyle} {body : Body}
    (sound : world.Sound) (covered : ∀ base ∈ bases, base.Over world.Knows)
    (stood : Bases.resolved earlier [] bases = .ok resolved)
    (bodied : body.scope.Over world.Knows) (annotated : body.annotations.Over world.Knows) :
    Yields (recordOf world surroundings name path bases resolved style body) (Made world) := by
  have below : ∀ base ∈ basesOf resolved, base.Below world.classes.size := by
    have each : ∀ base ∈ bases, base.Over (·.number < world.classes.size) :=
      fun base member => (covered base member).mono fun c known => known.lt_size
    unfold basesOf
    split
    · simp [Ancestor.Below]
    · exact Bases.below_classes (Bases.below_resolved [] each resolved stood)
  have assigned : ∀ counted, (assignedScope body counted).Over world.Knows := by
    intro counted
    unfold assignedScope
    split
    · exact bodied
    · exact bodied.sublist List.filter_sublist
  unfold recordOf
  intro record found
  obtain ⟨counted, _, found⟩ := bind_eq_ok_iff.mp found
  obtain ⟨_, _, found⟩ := bind_eq_ok_iff.mp found
  obtain ⟨metaclass, _, found⟩ := bind_eq_ok_iff.mp found
  obtain ⟨frame, first, found⟩ := bind_eq_ok_iff.mp found
  obtain ⟨membered, second, found⟩ := bind_eq_ok_iff.mp found
  obtain ⟨made, third, found⟩ := bind_eq_ok_iff.mp found
  obtain ⟨_, _, found⟩ := bind_eq_ok_iff.mp found
  cases found
  have framed := framed_frameOf sound below (assigned counted) annotated frame first
  exact (framed.withMembers style counted membered second).withParameters sound covered record third

theorem Made.withFields {record : ClassRecord} {wider : World} (made : Made world record)
    (isRecord : Bool) : Yields (withFields wider record isRecord) (Made world) := by
  unfold Definition.withFields
  refine ite_yields ?_ (yields_ok.mpr made)
  intro fielded found
  obtain ⟨fields, _, found⟩ := bind_eq_ok_iff.mp found
  split at found
  · cases found
  · cases found
    have covered := made.covered
    exact ⟨⟨made.number, ⟨covered.scope, covered.annotations, covered.argued⟩, made.bases,
      made.lineage, made.inherits⟩, made.written, made.argued⟩

end Definition

/-! ## Adding a class -/

namespace World

variable {world : World} {record : ClassRecord}

/-- A class that was made in a sound world makes a sound world. -/
theorem Sound.add (sound : world.Sound) (made : Definition.Made world record) :
    (world.add record).Sound := by
  have extended := world.extends_add record
  refine ⟨?_, ?_, fun entry member => (sound.scopes entry member).mono extended.knows⟩
  · intro number known found
    rcases getElem?_add found with ⟨rfl, rfl⟩ | before
    · exact made.number
    · exact sound.numbered number known before
  · intro known member
    obtain ⟨number, found⟩ := Array.getElem?_of_mem member
    have mentioned : record.Sound world := by
      refine ⟨made.covered, made.bases, made.lineage, made.inherits,
        fun forms kept form inside => ?_, made.argued⟩
      exact (made.written forms kept form inside).mono fun c known =>
        ⟨known, made.number ▸ known.lt_size⟩
    rcases getElem?_add found with ⟨rfl, rfl⟩ | before
    · exact mentioned.mono extended sound (Nat.le_of_eq made.number)
    · have member := mem_of_record? before
      exact (sound.records known member).mono extended sound
        (Nat.le_of_lt (sound.lt_size member))

/-- A class that was made is one of the world that it is added to. -/
theorem knows_add (made : Definition.Made world record) : (world.add record).Knows record.ref := by
  refine ⟨record, ?_, rfl⟩
  rw [World.record?, made.number, add, Array.getElem?_push_size]

end World

end TypeContracts
