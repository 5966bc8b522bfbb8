import TypeContracts.Proofs.Source.Binding
import TypeContracts.Proofs.Source.Exact
import TypeContracts.Proofs.Source.Hint

/-!
# Inherited members

The members of a class are described in one scope of type variables. The arguments that its bases
tell are bound in it one after another, and a variable that is bound already is left as it is. When
this scope can tell what is passed along the chains of bases (`World.Coherent`), it has for every
ancestor what any chain passes to it. So the type of an inherited member is that of its annotation in
the class that annotates it, with the type parameters of this class standing for what is passed to
it, and no type variable is missed that was given an argument (`World.members_of_passes`).

The scope cannot tell it when two classes share a type variable that stands for two types. A class
that passes its own variable, inside another type, to a base with the same variable is enough: the
member of the base has the argument of the class (`World.members_of_passes_shared`).
-/

set_option autoImplicit false

namespace TypeContracts

open Result

namespace World

open Description

variable {world : World} {record parent ancestor : ClassRecord} {own scope : TypeScope}

/-! ## The scope of the members -/

/-- The scope of the members of a class is one of what type variables stand for on the chains from
the class. -/
theorem settles_memberScope (sound : world.Sound) (member : record ∈ world.classes)
    (coherent : world.Coherent record own) :
    Settles (world.memberScope record own) fun wide =>
      Includes own wide ∧ world.Within record own wide := by
  unfold memberScope
  rcases told : world.baseArguments record with sort | entries
  · exact ⟨yields_error, fails_error.mpr fun _ same => by cases same⟩
  · exact binds_told sound member coherent _ rfl .own (.refl own) (fun _ _ => .own) told

theorem isSome_of_foldlM_bindNew {entries : List (TypeVariable × Form)} {wide later : TypeScope}
    (bound : entries.foldlM world.bindNew wide = .ok later) :
    ∀ entry ∈ entries, (later.lookup entry.1).isSome := by
  induction entries generalizing wide with
  | nil => exact List.forall_mem_nil _
  | cons entry rest ih =>
    rw [List.foldlM_cons] at bound
    obtain ⟨next, first, bound⟩ := bind_eq_ok_iff.mp bound
    refine List.forall_mem_cons.mpr ⟨?_, ih bound⟩
    have here : ∃ host, next.lookup entry.1 = some host := by
      unfold bindNew at first
      split at first
      next known =>
        cases first
        exact Option.isSome_iff_exists.mp known
      next unknown =>
        obtain ⟨host, _, same⟩ := bind_eq_ok_iff.mp first
        cases same
        exact ⟨host, by
          rw [List.lookup_append, Option.not_isSome_iff_eq_none.mp unknown, Option.none_or,
            List.lookup_cons_self]⟩
    obtain ⟨host, known⟩ := here
    rw [lookup_foldlM_bindNew bound known]
    rfl

section

variable (sound : world.Sound) (member : record ∈ world.classes)
  (coherent : world.Coherent record own) {wide : TypeScope}
  (extended : world.memberScope record own = .ok wide)
include sound member coherent extended

/-- An argument that is passed on a chain can be described there, and the scope of the members has
its description. -/
theorem exists_of_passed (chain : world.Passes record own parent scope)
    {entry : TypeVariable × Form} (passed : entry ∈ parent.passed) :
    ∃ host, ofForm world scope entry.2 = .ok host ∧ wide.lookup entry.1 = some host := by
  obtain ⟨entries, told, bound⟩ := memberScope_eq_ok_iff.mp extended
  have inside := chain.mem_told sound member coherent told passed
  obtain ⟨host, known⟩ := Option.isSome_iff_exists.mp (isSome_of_foldlM_bindNew bound entry inside)
  have within := ((settles_memberScope sound member coherent).1 wide extended).2
  exact ⟨host, coherent.agree chain entry passed host (within _ _ known), known⟩

/-- The scope of the members has what any chain passes to an ancestor. -/
theorem Passes.includes (chain : world.Passes record own ancestor scope) :
    Includes scope wide := by
  cases chain with
  | own => exact ((settles_memberScope sound member coherent).1 wide extended).1
  | applied chain base described _ =>
    intro v host found
    obtain ⟨argument, inside, here⟩ := exists_of_describePassed described found
    obtain ⟨host', same, known⟩ := exists_of_passed sound member coherent extended chain
      (ClassRecord.mem_passed base inside)
    rw [here, Except.ok.injEq] at same
    exact same ▸ known
  | plain => exact includes_nil wide

/-- A base of a class on a chain is on a chain. -/
theorem Passes.exists_base (chain : world.Passes record own parent scope) {number : Nat}
    (base : .contract number ∈ parent.bases) (known : world.classes[number]? = some ancestor) :
    ∃ passed, world.Passes record own ancestor passed := by
  by_cases plain : ∀ other ∈ parent.applied, other.1.number ≠ number
  · exact ⟨[], .plain chain ⟨base, plain⟩ known⟩
  · push Not at plain
    obtain ⟨⟨c, arguments⟩, applied, rfl⟩ := plain
    obtain ⟨passed, described, _⟩ := exists_describePassed fun entry inside =>
      exists_of_passed sound member coherent extended chain (ClassRecord.mem_passed applied inside)
    exact ⟨passed, .applied chain applied described known⟩

/-- Every ancestor of a class on a chain is on a chain. The induction is on the number of the
class. -/
theorem Passes.exists_lineage (number : Nat) : ∀ {parent : ClassRecord} {scope : TypeScope},
    parent.ref.number = number → world.Passes record own parent scope →
      ∀ ancestor ∈ world.records parent.lineage,
        ∃ passed, world.Passes record own ancestor passed := by
  induction number using Nat.strongRecOn with
  | ind number ih =>
    intro parent scope numbered chain ancestor inside
    have parented := chain.mem member
    have here := sound.records parent parented
    obtain ⟨ancestors, merged, lineage⟩ := here.inherits
    obtain ⟨place, among, found⟩ := List.mem_filterMap.mp inside
    rw [lineage, List.mem_cons] at among
    rcases among with rfl | among
    · obtain rfl : parent = ancestor := Option.some.inj ((sound.found parented).symm.trans found)
      exact ⟨scope, chain⟩
    rcases Lineage.mem_of_ofBases ancestors merged place among with base | ⟨base, based, behind⟩
    · cases place with
      | library c => cases found
      | contract below => exact chain.exists_base sound member coherent extended base found
    · cases base with
      | library c =>
        obtain ⟨l, _, rfl⟩ := List.mem_map.mp behind
        cases found
      | contract below =>
        obtain ⟨base, known, smaller⟩ := sound.exists_of_base parented based
        obtain ⟨passed, chain⟩ := chain.exists_base sound member coherent extended based known
        rw [Ancestor.lineage, known, Option.map_some, Option.getD_some] at behind
        exact ih _ (numbered ▸ smaller) rfl chain ancestor
          (List.mem_filterMap.mpr ⟨place, behind, found⟩)

end

/-- The members of a class are described without missing a type variable, when the variables of its
annotations are bound in the scope of its members. -/
theorem isBound_members (sound : world.Sound) (member : record ∈ world.classes)
    (coherent : world.Coherent record own) {c : ClassRef} (known : world.record? c = some record)
    (bound : ∀ wide, world.memberScope record own = .ok wide →
      ∀ hints, world.hints record = .ok hints → ∀ name hint, hints.find? name = some hint →
        ∀ v ∈ hint.typeVariables, (wide.lookup v).isSome) :
    Fails (world.members (.of c own)) IsBound := by
  simp only [World.members, known]
  refine Fails.bind_of_ok ?_ fun hints hinted => ?_
  · cases World.hints world record with
    | error fault => exact fails_error.mpr fun _ same => by cases same
    | ok hints => exact fails_ok
  have hinted : world.hints record = .ok hints := by
    rcases read : world.hints record with fault | found <;> rw [read] at hinted <;> cases hinted
    rfl
  refine (settles_memberScope sound member coherent).2.bind_of_ok fun wide extended => ?_
  refine Fails.bind ?_ fun names => ?_
  · unfold memberNames
    split <;> first
      | exact fails_ok
      | exact fails_error.mpr fun _ same => by cases same
  · refine fails_mapM fun entry visible => Fails.bind ?_ fun _ => fails_pure
    obtain ⟨name, _, found⟩ := List.mem_filterMap.mp visible
    split at found
    · cases found
    · obtain ⟨hint, written, same⟩ := Option.map_eq_some_iff.mp found
      cases same
      exact isBound_ofForm (bound wide extended hints hinted name hint written)

/-- The members of a described class, those that it inherits included, have the types of their
annotations in the classes that annotate them, with the type parameters of these classes standing
for what the bases pass for them along any chain, and there is a chain to each of these classes.
Loading them does not miss a type variable when those of the annotations have been given an
argument. -/
theorem members_of_passes (loaded : world.Loaded) {c : ClassRef}
    (known : world.record? c = some record) {hosts : List (Host ClassLoader)}
    (coherent : world.Coherent record (c.parameters.zip hosts)) :
    (∀ members, (object c hosts).members world.members = .ok members → ∀ member ∈ members,
      ∃ owner hint, world.Annotates (world.records record.lineage) member.name owner hint ∧
        (∃ scope, world.Passes record (c.parameters.zip hosts) owner scope) ∧
        ∀ scope, world.Passes record (c.parameters.zip hosts) owner scope →
          (∀ v ∈ hint.typeVariables, (scope.lookup v).isSome) →
            ofForm world scope hint = .ok member.type) ∧
      ((∀ name owner hint, world.Annotates (world.records record.lineage) name owner hint →
        ∀ v ∈ hint.typeVariables, ∃ scope,
          world.Passes record (c.parameters.zip hosts) owner scope ∧ (scope.lookup v).isSome) →
            ∀ text, (object c hosts).members world.members ≠
              .error (.unresolved text .unboundVariable)) := by
  have sound := loaded.sound
  have inside : record ∈ world.classes := mem_of_record? known
  refine ⟨fun members loaded member listed => ?_, fun given text failed => ?_⟩
  · obtain ⟨hints, wide, names, hinted, extended, _, typed⟩ := (members_eq_ok_iff known).mp loaded
    obtain ⟨hint, written, here⟩ := describeMembers_sound typed listed
    obtain ⟨owner, annotates⟩ := exists_annotates hinted written
    refine ⟨owner, hint, annotates, ?_, fun scope chain bound => ?_⟩
    · exact Passes.exists_lineage sound inside coherent extended _ rfl .own owner annotates.mem
    · exact ((chain.includes sound inside coherent extended).ofForm_eq world bound).symm.trans here
  · refine isBound_members sound inside coherent known ?_ _ failed text rfl
    intro wide extended hints hinted name hint written v used
    obtain ⟨owner, annotates⟩ := exists_annotates hinted written
    obtain ⟨scope, chain, bound⟩ := given name owner hint annotates v used
    obtain ⟨host, found⟩ := Option.isSome_iff_exists.mp bound
    exact Option.isSome_iff_exists.mpr
      ⟨host, chain.includes sound inside coherent extended v host found⟩

/-! ## A chain of classes -/

/-- A module with a class of crates and a chain of classes down to one that is derived without
arguments. The parameter of crates is one of two variables. -/
def calendars (name : String) : ModuleSource where
  name := "m"
  typeVariables := ["T", "U"]
  classes := [
    { name := "Crate"
      bases := [.subscript (.inSpace "typing" ["Generic"]) (.named name)]
      fields := [("item", .named name)] },
    { name := "Stack"
      bases := [.subscript (.named "Crate")
        (.subscript (.inSpace "collections" ["deque"]) (.named "T"))] },
    { name := "Dates", bases := [.subscript (.named "Stack") (.inSpace "datetime" ["date"])] },
    { name := "Calendar", bases := [.named "Dates"] }]

/-- The world with the module alone. -/
def calendarWorld (name : String) : World := ((Loading.enterAll [calendars name]).outcome {}).2

theorem loaded_calendarWorld (name : String) : (calendarWorld name).Loaded := .enter .start _

/-- The parameter of stacks. -/
def stacked : TypeVariable := ⟨"T", 0⟩

/-- The other variable. -/
def crated : TypeVariable := ⟨"U", 1⟩

def crate (v : TypeVariable) : ClassRef := ⟨0, "m", "Crate", "Crate", .plain, false, [v]⟩

def stack : ClassRef := ⟨1, "m", "Stack", "Stack", .plain, false, [stacked]⟩

/-- The form of a date. -/
def day : Form := .atom (.library ⟨"datetime", "date"⟩)

/-- The form of a sequence. -/
def several (form : Form) : Form := .generic (.library ⟨"collections", "deque"⟩) [form]

/-- The type of a date. -/
def date : Host ClassLoader := { kind := .date, fullName := "datetime.date", name := "date" }

/-- The type of a sequence of dates. -/
def dates : Host ClassLoader := sequence ⟨"collections", "deque"⟩ date

/-- The end of the lineage of a generic class. -/
def rootLineage : List Ancestor := [.generic, .library .object]

def crateRecord (v : TypeVariable) : ClassRecord where
  ref := crate v
  bases := [.generic]
  lineage := .contract 0 :: rootLineage
  storage := .library .object
  annotations := .fields [("item", .atom (.variable v))]
  written := some (.ok [.generic (.special .generic) [.atom (.variable v)]])
  argued := some (.ok [])

def stackRecord (v : TypeVariable) : ClassRecord where
  ref := stack
  bases := [.contract 0]
  lineage := [.contract 1, .contract 0] ++ rootLineage
  storage := .library .object
  written := some (.ok [.generic (.contract (crate v)) [several (.atom (.variable stacked))]])
  argued := some (.ok [(v, several (.atom (.variable stacked)))])

def datesRecord (v : TypeVariable) : ClassRecord where
  ref := ⟨2, "m", "Dates", "Dates", .plain, false, []⟩
  bases := [.contract 1]
  lineage := [.contract 2, .contract 1, .contract 0] ++ rootLineage
  storage := .library .object
  written := some (.ok [.generic (.contract stack) [day]])
  argued := some (.ok [(stacked, day), (v, several (.atom (.variable stacked)))])

def calendar : ClassRecord where
  ref := ⟨3, "m", "Calendar", "Calendar", .plain, false, []⟩
  bases := [.contract 2]
  lineage := [.contract 3, .contract 2, .contract 1, .contract 0] ++ rootLineage
  storage := .library .object

/-- The classes of the module. -/
def lineUp (v : TypeVariable) : List ClassRecord :=
  [crateRecord v, stackRecord v, datesRecord v, calendar]

/-- The one class with a plain base is the last one. -/
theorem plain_of_mem {v : TypeVariable} {parent : ClassRecord} {scope : TypeScope} {number : Nat}
    (among : (parent, scope) ∈ [(calendar, []), (datesRecord v, []),
      (stackRecord v, [(stacked, date)]), (crateRecord v, [(v, dates)])])
    (base : parent.IsPlainBase number) : parent = calendar ∧ number = 2 := by
  simp only [List.mem_cons, Prod.mk.injEq, List.not_mem_nil, or_false] at among
  obtain ⟨inside, plain⟩ := base
  rcases among with ⟨rfl, rfl⟩ | ⟨rfl, rfl⟩ | ⟨rfl, rfl⟩ | ⟨rfl, rfl⟩
  · simpa [calendar] using inside
  · obtain rfl : number = 1 := by simpa [datesRecord] using inside
    exact absurd rfl (plain (stack, [day]) List.mem_cons_self)
  · obtain rfl : number = 0 := by simpa [stackRecord] using inside
    exact absurd rfl (plain (crate v, [several (.atom (.variable stacked))]) List.mem_cons_self)
  · simp [crateRecord, Ancestor.generic] at inside

section

variable {world : World} {v : TypeVariable} {scope : TypeScope}

theorem ofForm_day : ofForm world scope day = .ok date := by
  have role : (⟨"datetime", "date"⟩ : LibraryClass).role = .date := by decide
  rw [day, ofForm, ofAtom, ofLibrary, role]
  rfl

theorem ofForm_several {form : Form} (described : ofForm world scope form = .ok date) :
    ofForm world scope (several form) = .ok dates := by
  have role : (⟨"collections", "deque"⟩ : LibraryClass).role = .sequence := by decide
  rw [several, ofForm, container?]
  simp only [role]
  rw [ofElements, described]
  rfl

theorem ofForm_variable {host : Host ClassLoader} (bound : scope.lookup v = some host) :
    ofForm world scope (.atom (.variable v)) = .ok host := by
  rw [ofForm, ofAtom, bound]

/-- Several of the parameter of stacks, where that stands for a date. -/
theorem ofForm_stacked (bound : scope.lookup stacked = some date) :
    ofForm world scope (several (.atom (.variable stacked))) = .ok dates :=
  ofForm_several (ofForm_variable bound)

theorem describePassed_single {form : Form} {host : Host ClassLoader} (v : TypeVariable)
    (described : ofForm world scope form = .ok host) :
    world.describePassed scope [(v, form)] = .ok [(v, host)] := by
  rw [describePassed, List.mapM_cons, described]
  rfl

/-- Crates are annotated with their parameter. -/
theorem ownHints_crateRecord :
    world.ownHints [] (crateRecord v) = .ok [("item", .atom (.variable v))] := by
  have read : ∀ names, world.hint names (.atom (.variable v)) = .ok (.atom (.variable v)) := by
    intro names
    unfold World.hint
    -- The texts that are being read play no role, for there are none.
    generalize world.read names World.readingDepth [] = read
    cbv
  simp [World.ownHints, crateRecord, read, Scope.assign, bind, Except.bind, pure, Except.pure]

variable (classes : world.classes.toList = lineUp v)
include classes

theorem getElem?_of_lineUp (number : Nat) : world.classes[number]? = (lineUp v)[number]? := by
  rw [← Array.getElem?_toList, classes]

theorem records_of_lineUp : world.records calendar.lineage =
    [calendar, datesRecord v, stackRecord v, crateRecord v] := by
  simp [World.records, calendar, rootLineage, Ancestor.record?, Ancestor.generic,
    getElem?_of_lineUp classes, lineUp]

/-- The chains from the last class: to the class before it without arguments, from there with a date
for the parameter of stacks, and with several dates for that of crates. -/
theorem passes_iff {parent : ClassRecord} :
    world.Passes calendar [] parent scope ↔
      (parent, scope) ∈ [(calendar, []), (datesRecord v, []), (stackRecord v, [(stacked, date)]),
        (crateRecord v, [(v, dates)])] := by
  have found := getElem?_of_lineUp classes
  have first : world.describePassed [] [(stacked, day)] = .ok [(stacked, date)] :=
    describePassed_single stacked ofForm_day
  have second : world.describePassed [(stacked, date)] [(v, several (.atom (.variable stacked)))] =
      .ok [(v, dates)] := describePassed_single v (ofForm_stacked List.lookup_cons_self)
  constructor
  · intro chain
    induction chain with
    | own => simp
    | @applied parent ancestor scope passed c arguments chain base described known ih =>
      simp only [List.mem_cons, Prod.mk.injEq, List.not_mem_nil, or_false] at ih
      rcases ih with ⟨rfl, rfl⟩ | ⟨rfl, rfl⟩ | ⟨rfl, rfl⟩ | ⟨rfl, rfl⟩
      · cases base
      · obtain ⟨rfl, rfl⟩ : c = stack ∧ arguments = [day] := by
          simpa [ClassRecord.applied, datesRecord] using base
        cases first.symm.trans described
        cases (found 1).symm.trans known
        simp
      · obtain ⟨rfl, rfl⟩ : c = crate v ∧ arguments = [several (.atom (.variable stacked))] := by
          simpa [ClassRecord.applied, stackRecord] using base
        cases second.symm.trans described
        cases (found 0).symm.trans known
        simp
      · cases base
    | @plain parent ancestor scope number chain base known ih =>
      obtain ⟨rfl, rfl⟩ := plain_of_mem ih base
      cases (found 2).symm.trans known
      simp
  · have last : world.Passes calendar [] (datesRecord v) [] :=
      .plain .own ⟨List.mem_cons_self, List.forall_mem_nil _⟩ (found 2)
    have middle : world.Passes calendar [] (stackRecord v) [(stacked, date)] :=
      .applied last (show (stack, [day]) ∈ (datesRecord v).applied from List.mem_cons_self) first
        (found 1)
    have farthest : world.Passes calendar [] (crateRecord v) [(v, dates)] :=
      .applied middle (show (crate v, [several (.atom (.variable stacked))]) ∈
        (stackRecord v).applied from List.mem_cons_self) second (found 0)
    simp only [List.mem_cons, Prod.mk.injEq, List.not_mem_nil, or_false]
    rintro (⟨rfl, rfl⟩ | ⟨rfl, rfl⟩ | ⟨rfl, rfl⟩ | ⟨rfl, rfl⟩)
    · exact .own
    · exact last
    · exact middle
    · exact farthest

theorem baseArguments_of_lineUp : ∀ record ∈ [calendar, datesRecord v],
    world.baseArguments record =
      .ok [(stacked, day), (v, several (.atom (.variable stacked)))] := by
  simp [World.baseArguments, World.inherited?, World.records, calendar, datesRecord, rootLineage,
    Ancestor.record?, Ancestor.generic, getElem?_of_lineUp classes, lineUp]

/-- The only annotation is that of crates. -/
theorem annotates_iff {name : String} {owner : ClassRecord} {hint : Form} :
    world.Annotates (world.records calendar.lineage) name owner hint ↔
      name = "item" ∧ owner = crateRecord v ∧ hint = .atom (.variable v) := by
  rw [records_of_lineUp classes]
  constructor
  · intro annotates
    have among := annotates.mem
    obtain ⟨_, _, own, read, _, _, hints, found, plain⟩ := annotates
    simp only [List.mem_cons, List.not_mem_nil, or_false] at among
    rcases among with rfl | rfl | rfl | rfl
    iterate 3
      cases hints
      cases found
    rw [ownHints_crateRecord, Except.ok.injEq] at hints
    subst hints
    rw [Scope.find?, List.lookup_cons] at found
    split at found
    next same =>
      cases found
      cases plain
      exact ⟨eq_of_beq same, rfl, rfl⟩
    next => cases found
  · rintro ⟨rfl, rfl, rfl⟩
    have silent : ∀ other ∈ [calendar, datesRecord v, stackRecord v],
        ∃ hints, world.ownHints [] other = .ok hints ∧ hints.find? "item" = none := by
      simp only [List.forall_mem_cons]
      exact ⟨⟨[], rfl, rfl⟩, ⟨[], rfl, rfl⟩, ⟨[], rfl, rfl⟩, List.forall_mem_nil _⟩
    exact ⟨_, [], _, _, rfl, silent, ownHints_crateRecord, rfl, rfl⟩

theorem hints_of_lineUp : world.hints calendar = .ok [("item", .atom (.variable v))] := by
  rw [World.hints, records_of_lineUp classes]
  show List.foldlM world.ownHints []
    [crateRecord v, stackRecord v, datesRecord v, calendar] >>= _ = _
  rw [List.foldlM_cons, ownHints_crateRecord]
  rfl

/-- The item is what the parameter of crates stands for. -/
theorem members_of_lineUp {wide : TypeScope} {host : Host ClassLoader}
    (extended : world.memberScope calendar [] = .ok wide) (bound : wide.lookup v = some host) :
    (object calendar.ref []).members world.members = .ok [⟨"item", host⟩] := by
  have plain : world.recordFields? calendar = none := by
    rw [recordFields?, inherited?, records_of_lineUp classes]
    rfl
  have known : world.record? calendar.ref = some calendar := getElem?_of_lineUp classes 3
  refine (members_eq_ok_iff known).mpr
    ⟨_, wide, ["item"], hints_of_lineUp classes, extended, ?_, ?_⟩
  · rw [memberNames, plain]
    rfl
  · have visible : Text.startsWith "_" "item" = false := by decide
    simp [describeMembers, visible, Scope.find?, ofForm_variable bound, bind, Except.bind, pure,
      Except.pure]

/-- The parameter of crates is bound only if it is not that of stacks. -/
theorem memberScope_of_lineUp :
    world.memberScope calendar [] =
      .ok (if v = stacked then [(stacked, date)] else [(stacked, date), (v, dates)]) := by
  have first : world.bindNew [] (stacked, day) = .ok [(stacked, date)] := by
    rw [bindNew, ofForm_day]
    rfl
  have second : world.bindNew [(stacked, date)] (v, several (.atom (.variable stacked))) =
      .ok (if v = stacked then [(stacked, date)] else [(stacked, date), (v, dates)]) := by
    rw [bindNew, ofForm_stacked List.lookup_cons_self]
    by_cases same : v = stacked
    · rw [if_pos same, same]
      rfl
    · have unbound : List.lookup v [(stacked, date)] = none := by
        rw [List.lookup_cons, show (v == stacked) = false by simpa using same, List.lookup_nil]
      rw [if_neg same, unbound]
      rfl
  refine memberScope_eq_ok_iff.mpr
    ⟨_, baseArguments_of_lineUp classes calendar List.mem_cons_self, ?_⟩
  rw [List.foldlM_cons, first]
  exact bind_eq_ok_iff.mpr ⟨_, rfl, bind_eq_ok_iff.mpr ⟨_, second, rfl⟩⟩

/-- A date is passed for the parameter of stacks, and several of that parameter for the one of
crates. -/
theorem passed_of_lineUp {parent : ClassRecord} (chain : world.Passes calendar [] parent scope)
    {entry : TypeVariable × Form} (passed : entry ∈ parent.passed) :
    entry = (stacked, day) ∨
      entry = (v, several (.atom (.variable stacked))) ∧ scope = [(stacked, date)] := by
  have among := (passes_iff classes).mp chain
  simp only [List.mem_cons, Prod.mk.injEq, List.not_mem_nil, or_false] at among
  rcases among with ⟨rfl, rfl⟩ | ⟨rfl, rfl⟩ | ⟨rfl, rfl⟩ | ⟨rfl, rfl⟩
  · cases passed
  · exact .inl (List.mem_singleton.mp passed)
  · exact .inr ⟨List.mem_singleton.mp passed, rfl⟩
  · cases passed

/-- With a variable of its own for crates, one scope tells what is passed along the chains. -/
theorem coherent_of_lineUp (apart : v ≠ stacked) : world.Coherent calendar [] where
  given chain entry passed u used := by
    rcases passed_of_lineUp classes chain passed with rfl | ⟨rfl, rfl⟩
    · cases used
    · obtain rfl : u = stacked := List.mem_singleton.mp used
      rfl
  agree chain entry passed host means := by
    cases means with
    | own bound => cases bound
    | passed other passed' described =>
      rcases passed_of_lineUp classes chain passed with rfl | ⟨rfl, rfl⟩ <;>
        rcases passed_of_lineUp classes other passed' with same | ⟨same, rfl⟩ <;>
        obtain ⟨key, rfl⟩ := Prod.mk.inj same
      · exact ofForm_day.trans (ofForm_day.symm.trans described)
      · exact absurd key.symm apart
      · exact absurd key apart
      · exact described
  shown chain base known := by
    obtain ⟨rfl, rfl⟩ := plain_of_mem ((passes_iff classes).mp chain) base
    cases (getElem?_of_lineUp classes 2).symm.trans known
    have told := baseArguments_of_lineUp classes
    exact .inr ((told _ (List.mem_cons_of_mem _ List.mem_cons_self)).trans
      (told calendar List.mem_cons_self).symm)

end

set_option maxRecDepth 20000 in
theorem classes_apart : (calendarWorld "U").classes.toList = lineUp crated :=
  Seen.eq (by decide +kernel : (seeEach ClassRecord.see (calendarWorld "U").classes.toList
    (lineUp crated)).isSome = true)

set_option maxRecDepth 20000 in
theorem classes_shared : (calendarWorld "T").classes.toList = lineUp stacked :=
  Seen.eq (by decide +kernel : (seeEach ClassRecord.see (calendarWorld "T").classes.toList
    (lineUp stacked)).isSome = true)

/-- The item of a calendar is described along the chain to crates, and no type variable is
missed. -/
theorem members_of_passes_calendar :
    let world := calendarWorld "U"
    ∃ members, (object calendar.ref []).members world.members = .ok members ∧
      members.map HostMember.name = ["item"] ∧
      (∀ member ∈ members, ofForm world [(crated, dates)] (.atom (.variable crated)) =
        .ok member.type) ∧
      ∀ text, (object calendar.ref []).members world.members ≠
        .error (.unresolved text .unboundVariable) := by
  intro world
  have classes : world.classes.toList = lineUp crated := classes_apart
  have coherent : world.Coherent calendar (calendar.ref.parameters.zip []) :=
    coherent_of_lineUp classes (by decide)
  have chain : world.Passes calendar [] (crateRecord crated) [(crated, dates)] :=
    (passes_iff classes).mpr (by simp)
  have loaded := members_of_lineUp classes (memberScope_of_lineUp classes) rfl
  have known : world.record? calendar.ref = some calendar := getElem?_of_lineUp classes 3
  have bind : ∀ u ∈ [crated], (List.lookup u [(crated, dates)]).isSome = true := by simp
  obtain ⟨typed, bound⟩ := members_of_passes (loaded_calendarWorld "U") known coherent
  refine ⟨_, loaded, rfl, fun member listed => ?_, bound ?_⟩
  · obtain ⟨owner, hint, annotates, _, along⟩ := typed _ loaded member listed
    obtain ⟨_, rfl, rfl⟩ := (annotates_iff classes).mp annotates
    exact along _ chain bind
  · intro name owner hint annotates u used
    obtain ⟨_, rfl, rfl⟩ := (annotates_iff classes).mp annotates
    exact ⟨_, chain, bind u used⟩

/-- With one variable for stacks and crates, the item of a calendar is a date, although the bases
pass several dates for the parameter of crates. -/
theorem members_of_passes_shared :
    let world := calendarWorld "T"
    world.Loaded ∧ world.record? calendar.ref = some calendar ∧
      world.Annotates (world.records calendar.lineage) "item" (crateRecord stacked)
        (.atom (.variable stacked)) ∧
      (∀ scope, world.Passes calendar [] (crateRecord stacked) scope ↔ scope = [(stacked, dates)]) ∧
      ofForm world [(stacked, dates)] (.atom (.variable stacked)) = .ok dates ∧
      (object calendar.ref []).members world.members = .ok [⟨"item", date⟩] ∧
      date.kind ≠ dates.kind := by
  intro world
  have classes : world.classes.toList = lineUp stacked := classes_shared
  refine ⟨loaded_calendarWorld "T", getElem?_of_lineUp classes 3,
    (annotates_iff classes).mpr ⟨rfl, rfl, rfl⟩, fun scope => ?_,
    ofForm_variable List.lookup_cons_self,
    members_of_lineUp classes (memberScope_of_lineUp classes) rfl, by decide⟩
  rw [passes_iff classes]
  constructor
  · simp only [List.mem_cons, Prod.mk.injEq, List.not_mem_nil, or_false]
    rintro (⟨same, _⟩ | ⟨same, _⟩ | ⟨same, _⟩ | ⟨_, rfl⟩)
    iterate 3 cases congrArg (fun record => record.ref.number) same
    rfl
  · rintro rfl
    simp

end World

end TypeContracts
