import TypeContracts.Proofs.Source.Over
import TypeContracts.Source.Hint

/-!
# The classes that annotations stand for

A world is over a set of classes when the scopes of its modules and the bodies, annotations and
bases of its classes are. Evaluating an annotation brings in no class from elsewhere: in a world
over a set, with names over the set, what an annotation stands for is over the set again, and so
are the hints of a class.
-/

set_option autoImplicit false

namespace TypeContracts

open Result

variable {p : ClassRef → Prop}

/-! ## Scopes and worlds over a set of classes -/

namespace Scope

/-- What the names of a scope stand for is over the set. -/
def Over (p : ClassRef → Prop) (scope : Scope) : Prop := ∀ entry ∈ scope, entry.2.Over p

variable {scope : Scope} {name : String} {form : Form}

theorem over_nil : Over p [] := nofun

theorem Over.mono {q : ClassRef → Prop} (wider : ∀ c, p c → q c) (covered : scope.Over p) :
    scope.Over q :=
  fun entry member => (covered entry member).mono wider

theorem Over.find? (covered : scope.Over p) (found : scope.find? name = some form) :
    form.Over p := by
  obtain ⟨front, behind, split, _⟩ := List.lookup_eq_some_iff.mp found
  exact covered (name, form) (split ▸ List.mem_append_right front List.mem_cons_self)

theorem Over.sublist {part : Scope} (covered : scope.Over p) (inside : part.Sublist scope) :
    part.Over p :=
  fun entry member => covered entry (inside.mem member)

theorem Over.erase (covered : scope.Over p) : (scope.erase name).Over p :=
  covered.sublist List.filter_sublist

theorem Over.assign (covered : scope.Over p) (here : form.Over p) :
    (scope.assign name form).Over p := by
  unfold Scope.assign
  split
  · rintro entry member
    obtain ⟨earlier, inside, same⟩ := List.mem_map.mp member
    split at same
    · exact same ▸ here
    · exact same ▸ covered earlier inside
  · rintro entry member
    rcases List.mem_append.mp member with before | last
    · exact covered entry before
    · exact List.mem_singleton.mp last ▸ here

end Scope

/-- What the names stand for is over the set. -/
def Lookup.Over (p : ClassRef → Prop) (names : Lookup) : Prop :=
  ∀ name form, names name = some form → form.Over p

/-- What a class keeps of its body, its annotations and its bases is over the set. -/
structure ClassRecord.Over (p : ClassRef → Prop) (record : ClassRecord) : Prop where
  scope : record.scope.Over p
  annotations : ∀ fields, record.annotations = .fields fields → fields.Over p
  argued : ∀ entries, record.argued = some (.ok entries) → ∀ entry ∈ entries, entry.2.Over p

/-- The scopes of the modules and the classes of a world are over the set. -/
structure World.Over (p : ClassRef → Prop) (world : World) : Prop where
  records : ∀ record ∈ world.classes, record.Over p
  scopes : ∀ entry ∈ world.modules, entry.2.scope.Over p

theorem ClassRecord.Over.mono {q : ClassRef → Prop} (wider : ∀ c, p c → q c) {record : ClassRecord}
    (covered : record.Over p) : record.Over q where
  scope := covered.scope.mono wider
  annotations fields kept := (covered.annotations fields kept).mono wider
  argued entries kept entry member := (covered.argued entries kept entry member).mono wider

namespace World

variable {world : World}

theorem Over.mono {q : ClassRef → Prop} (wider : ∀ c, p c → q c) (covered : world.Over p) :
    world.Over q where
  records record member := (covered.records record member).mono wider
  scopes entry member := (covered.scopes entry member).mono wider

theorem mem_of_record? {number : Nat} {record : ClassRecord}
    (found : world.classes[number]? = some record) : record ∈ world.classes := by
  obtain ⟨inside, same⟩ := Array.getElem?_eq_some_iff.mp found
  exact same ▸ Array.getElem_mem inside

/-- The classes that a lineage tells are classes of the world. -/
theorem mem_of_mem_records {lineage : List Ancestor} {record : ClassRecord}
    (member : record ∈ world.records lineage) : record ∈ world.classes := by
  obtain ⟨ancestor, _, found⟩ := List.mem_filterMap.mp member
  cases ancestor with
  | library c => cases found
  | contract number => exact mem_of_record? found

/-- What a class inherits is the answer of a class of the world. -/
theorem exists_of_inherited? {α : Type} {lineage : List Ancestor}
    {answer : ClassRecord → Option α} {value : α}
    (found : world.inherited? lineage answer = some value) :
    ∃ record ∈ world.records lineage, answer record = some value :=
  List.exists_of_findSome?_eq_some found

theorem Over.attribute? (covered : world.Over p) {lineage : List Ancestor} {name : String}
    {form : Form} (found : world.attribute? lineage name = some form) : form.Over p := by
  obtain ⟨record, member, here⟩ := exists_of_inherited? found
  exact (covered.records record (mem_of_mem_records member)).scope.find? here

theorem Over.module? (covered : world.Over p) {name : String} {loaded : LoadedModule}
    (found : world.module? name = some loaded) : loaded.scope.Over p := by
  obtain ⟨front, behind, split, _⟩ := List.lookup_eq_some_iff.mp found
  exact covered.scopes (name, loaded) (split ▸ List.mem_append_right front List.mem_cons_self)

theorem Over.moduleScope (covered : world.Over p) (name : String) :
    (world.moduleScope name).Over p := by
  unfold World.moduleScope
  rcases found : world.module? name with _ | loaded
  · exact Scope.over_nil
  · exact covered.module? found

end World

/-! ## Names -/

namespace Lookup

theorem over_typingName : Over p typingName := by
  intro name form found
  unfold typingName at found
  split at found
  · cases found
    trivial
  · split at found
    · cases found
      trivial
    · split at found
      · cases found
        trivial
      · rcases shared : Alias.find? name with _ | a <;> rw [shared] at found
        · obtain ⟨s, _, rfl⟩ := Option.map_eq_some_iff.mp found
          trivial
        · cases found
          trivial

theorem over_inLibrary (space : String) : Over p (inLibrary space) := by
  intro name form found
  unfold inLibrary at found
  split at found
  · exact over_typingName name form found
  · (repeat' split at found) <;> first
      | cases found
        trivial
      | obtain ⟨c, _, rfl⟩ := Option.map_eq_some_iff.mp found
        trivial

theorem over_builtin : Over p builtin := by
  intro name form found
  unfold builtin at found
  (repeat' split at found) <;> first
    | cases found
      trivial
    | exact over_inLibrary _ name form found

theorem over_ofScope {scope : Scope} (covered : scope.Over p) : Over p (ofScope scope) :=
  fun _ _ found => covered.find? found

theorem Over.orElse {first second : Lookup} (here : first.Over p) (behind : second.Over p) :
    (first.orElse second).Over p := by
  intro name form found
  rw [Lookup.orElse] at found
  rcases own : first name with _ | form' <;> rw [own] at found
  · exact behind name form found
  · cases found
    exact here name form own

theorem over_inBody {body module : Scope} (own : body.Over p) (outer : module.Over p) :
    Over p (inBody body module) :=
  (over_ofScope own).orElse ((over_ofScope outer).orElse over_builtin)

theorem over_deferred {body : Scope} {module : Lookup} (own : body.Over p) (outer : module.Over p) :
    Over p (deferred body module) :=
  outer.orElse ((over_ofScope own).orElse over_builtin)

theorem Over.form {names : Lookup} (covered : names.Over p) (name : String) :
    Yields (names.form name) (Form.Over p) := by
  unfold Lookup.form
  split
  · exact yields_ok.mpr trivial
  · exact yields_ok.mpr trivial
  · exact yields_ok.mpr trivial
  · split
    next found => exact yields_ok.mpr (covered _ _ found)
    next => exact yields_error

end Lookup

namespace World

variable {world : World}

theorem Over.moduleNames? (covered : world.Over p) {space : String} {names : Lookup}
    (found : world.moduleNames? space = some names) : names.Over p := by
  unfold World.moduleNames? at found
  split at found
  next kept =>
    cases found
    exact Lookup.over_ofScope (covered.module? kept)
  next =>
    split at found
    · cases found
      exact Lookup.over_builtin
    · split at found
      · cases found
        exact Lookup.over_inLibrary space
      · cases found

/-! ## Brackets -/

@[simp] theorem over_memberForm (c : ClassRef) (members : EnumerationMembers) (member : EnumMember) :
    (memberForm c members member).Over p := trivial

theorem over_memberNamed (c : ClassRef) (index : Form) :
    Yields (world.memberNamed c index) (Form.Over p) := by
  unfold memberNamed
  (repeat' split) <;> first | exact yields_error | exact yields_ok.mpr (over_memberForm ..)

theorem over_subscriptClass {c : ClassRef} {index : Form} (known : p c) (covered : index.Over p) :
    Yields (world.subscriptClass c index) (Form.Over p) := by
  unfold subscriptClass
  refine ite_yields (over_memberNamed c index) ?_
  split
  · exact Form.over_applyContract known covered.arguments
  · exact yields_ok.mpr (by simpa using ⟨known, covered.arguments⟩)
  · exact (Form.over_callArguments covered.arguments).map fun types typed => by
      simpa using ⟨known, typed⟩
  · exact yields_error
  · exact yields_error

theorem over_subscript {head index : Form} (here : head.Over p) (inside : index.Over p) :
    Yields (world.subscript head index) (Form.Over p) := by
  unfold subscript
  split
  · exact over_subscriptClass here inside
  · refine ite_yields ?_ (Form.over_applyLibrary inside.arguments)
    split <;> exact yields_error
  · exact Form.over_applyAlias inside.arguments
  · exact Form.over_applySpecial inside
  · exact yields_error
  · exact yields_error
  · exact Operation.over_index here
  · exact Operation.over_index here
  · exact Operation.over_index here
  · exact Form.over_applyAgain here inside.arguments

/-! ## Attributes -/

theorem over_libraryAttribute (c : LibraryClass) (name : String) :
    Yields (libraryAttribute c name) (Form.Over p) :=
  ite_yields (yields_ok.mpr trivial) (ite_yields yields_error yields_error)

theorem Over.classAttribute (covered : world.Over p) (c : ClassRef) (name : String) :
    Yields (world.classAttribute c name) (Form.Over p) := by
  unfold World.classAttribute
  simp only
  split
  next found => exact yields_ok.mpr (covered.attribute? found)
  next => exact yields_ok.mpr trivial
  next => exact yields_ok.mpr trivial
  next => exact yields_ok.mpr trivial
  next => exact ite_yields (yields_ok.mpr trivial) (ite_yields yields_error yields_error)

theorem Over.memberAttribute (covered : world.Over p) (m : OwnedMember) (name : String) :
    Yields (world.memberAttribute m name) (Form.Over p) := by
  unfold World.memberAttribute
  split
  · exact yields_ok.mpr trivial
  · exact yields_ok.mpr trivial
  · exact yields_ok.mpr (Form.over_ofValue _)
  · exact yields_ok.mpr (Form.over_ofValue _)
  · split
    next found => exact yields_ok.mpr (covered.classAttribute _ _ _ found)
    next => exact yields_error

theorem Over.spaceAttribute (covered : world.Over p) (space name : String) :
    Yields (world.spaceAttribute space name) (Form.Over p) := by
  unfold World.spaceAttribute
  simp only
  split
  next found =>
    refine yields_ok.mpr ?_
    split at found
    next kept => exact (covered.module? kept).find? found
    next => exact Lookup.over_inLibrary space name _ found
  next => exact yields_error

theorem over_handedOn {name : String} {found : Formed} (covered : Yields found (Form.Over p)) :
    Yields (attributeOf.handedOn name found) (Form.Over p) :=
  ite_yields yields_error covered

theorem Over.attributeOf (covered : world.Over p) (name : String) :
    ∀ owner : Form, Yields (world.attributeOf owner name) (Form.Over p)
  | .atom a => by
    cases a with
    | contract c =>
      rw [World.attributeOf]
      exact covered.classAttribute c name
    | space space =>
      rw [World.attributeOf]
      exact covered.spaceAttribute space name
    | member m =>
      rw [World.attributeOf]
      exact covered.memberAttribute m name
    | special s =>
      rw [World.attributeOf]
      split
      · exact over_libraryAttribute _ name
      · exact yields_error
    | library c =>
      rw [World.attributeOf]
      exact over_libraryAttribute c name
    | any =>
      rw [World.attributeOf]
      exact over_libraryAttribute _ name
    | «alias» a =>
      rw [World.attributeOf]
      exact over_handedOn (over_libraryAttribute _ name)
    | _ =>
      rw [World.attributeOf] <;> first | exact yields_error | simp
  | .generic head arguments => by
    cases head with
    | contract c =>
      rw [World.attributeOf]
      exact over_handedOn (covered.classAttribute c name)
    | library c =>
      rw [World.attributeOf]
      exact over_libraryAttribute c name
    | «alias» a =>
      rw [World.attributeOf]
      exact over_handedOn (over_libraryAttribute _ name)
    | special s =>
      rw [World.attributeOf]
      exact yields_error
  | .union barred options => by
    cases barred <;> rw [World.attributeOf] <;> first | exact yields_error | simp
  | .annotated type notes => by
    rw [World.attributeOf]
    exact over_handedOn (covered.attributeOf name type)
  | .initVariable type => by
    rw [World.attributeOf] <;> first | exact yields_error | simp
  | .group grouping items => by
    rw [World.attributeOf] <;> first | exact yields_error | simp

/-! ## Calls -/

theorem over_memberWith (c : ClassRef) (arguments : List Form) :
    Yields (world.memberWith c arguments) (Form.Over p) := by
  have valued : ∀ form, Yields (memberWith.withValue world c form) (Form.Over p) := by
    intro form
    unfold memberWith.withValue
    simp only
    split
    next found =>
      obtain ⟨members, _, made⟩ := Option.bind_eq_some_iff.mp found
      obtain ⟨member, _, rfl⟩ := Option.map_eq_some_iff.mp made
      exact yields_ok.mpr (over_memberForm ..)
    next => exact yields_error
  unfold memberWith
  split
  · exact yields_error
  · exact ite_yields (yields_ok.mpr trivial) (valued _)
  · exact valued _
  · exact yields_error

theorem over_callClass (c : ClassRef) (arguments : List Form) :
    Yields (world.callClass c arguments) (Form.Over p) := by
  unfold callClass
  split
  · exact yields_error
  · refine ite_yields (over_memberWith c arguments) (ite_yields yields_error ?_)
    split
    · exact yields_error
    · exact yields_ok.mpr trivial
    · exact ite_yields (yields_ok.mpr trivial) yields_error

theorem over_made (made : Coercion.Made) : Yields (match made with
    | .ok value => (.ok (Form.ofValue value) : Formed)
    | .error fault => .error (.uncoercible fault)) (Form.Over p) := by
  split
  · exact yields_ok.mpr (Form.over_ofValue _)
  · exact yields_error

/-- A group is made of the items of another one. -/
theorem over_regrouped {arguments : List Form} (each : ∀ argument ∈ arguments, argument.Over p)
    (grouping : Grouping) : Yields (match arguments with
      | [] => (.ok (.group grouping []) : Formed)
      | [.group .tuple items] => .ok (.group grouping items)
      | [.group .list items] => .ok (.group grouping items)
      | [.group .set items] => .ok (.group grouping items)
      | [form] => .error (.uncoercible (.noIterable form.sort))
      | _ => .error (.uncoercible (.unexpected grouping.sort 1 arguments.length)))
      (Form.Over p) := by
  split <;> first
    | exact yields_error
    | exact yields_ok.mpr trivial
    | simpa [Form.Over] using each

theorem over_callLibrary {c : LibraryClass} {arguments : List Form}
    (each : ∀ argument ∈ arguments, argument.Over p) :
    Yields (callLibrary c arguments) (Form.Over p) := by
  unfold callLibrary
  simp only
  split
  · exact over_made _
  · exact over_made _
  · exact over_made _
  · split
    · exact yields_ok.mpr trivial
    · exact over_made _
  · exact over_regrouped each _
  · exact over_regrouped each _
  · exact over_regrouped each _
  · exact ite_yields (over_regrouped each _) (yields_ok.mpr trivial)
  · exact ite_yields (yields_ok.mpr trivial) (yields_ok.mpr trivial)

theorem over_call {arguments : List Form} (each : ∀ argument ∈ arguments, argument.Over p) :
    ∀ head : Form, Yields (world.call head arguments) (Form.Over p)
  | .atom a => by
    cases a with
    | contract c =>
      rw [World.call]
      exact over_callClass c arguments
    | library c =>
      rw [World.call]
      exact over_callLibrary each
    | noneType =>
      rw [World.call]
      exact ite_yields (yields_ok.mpr trivial) yields_error
    | special s =>
      cases s with
      | initVariable =>
        rcases arguments with _ | ⟨type, _ | ⟨next, rest⟩⟩
        · rw [World.call]
          exact yields_error
        · rw [World.call, yields_ok, Form.Over]
          exact each type List.mem_cons_self
        · rw [World.call] <;> first | exact yields_error | simp
      | _ => rw [World.call] <;> first | exact yields_error | simp
    | _ => rw [World.call] <;> first | exact yields_error | simp
  | .generic head _ => by
    cases head with
    | contract c =>
      rw [World.call]
      exact over_callClass c arguments
    | library c =>
      rw [World.call]
      exact over_callLibrary each
    | _ =>
      rw [World.call]
      exact yields_error
  | .union barred _ => by
    cases barred <;> rw [World.call] <;> first | exact yields_error | simp
  | .annotated type _ => by
    rw [World.call]
    exact over_call each type
  | .initVariable _ => by
    rw [World.call] <;> first | exact yields_error | simp
  | .group _ _ => by
    rw [World.call] <;> first | exact yields_error | simp

/-! ## Operators -/

theorem over_combine {operator : Operator} {left right : Form} (first : left.Over p)
    (second : right.Over p) : Yields (world.combine operator left right) (Form.Over p) := by
  unfold World.combine
  split
  next found =>
    refine yields_ok.mpr ?_
    unfold flagsTogether? at found
    split at found
    next =>
      simp only [Option.bind_eq_bind, Option.bind_eq_some_iff] at found
      obtain ⟨members, _, a, _, b, _, found⟩ := found
      split at found
      · obtain ⟨member, _, same⟩ := Option.bind_eq_some_iff.mp found
        cases same
        exact over_memberForm ..
      · cases found
    next => cases found
  next => exact Operation.over_combine first second


/-! ## Evaluation -/

theorem over_grouped {grouping : Grouping} {items : List Form}
    (each : ∀ item ∈ items, item.Over p) : Yields (grouped grouping items) (Form.Over p) := by
  unfold grouped
  split
  · split
    · exact yields_error
    · rw [yields_ok, Form.Over, Form.allOver_iff]
      exact fun item member => each item (Distinct.mem_of_mem_listBy member)
  · split
    · exact yields_error
    · simpa using each
  · simpa using each

mutual

/-- What an annotation stands for is over the set when the names and the world are. -/
theorem Over.evaluate (covered : world.Over p) {names : Lookup} (known : names.Over p) :
    ∀ expression, Yields (world.evaluate names expression) (Form.Over p)
  | .named name => by
    rw [World.evaluate]
    exact known.form _
  | .attribute owner name => by
    rw [World.evaluate]
    exact (covered.evaluate known owner).bind fun form _ => covered.attributeOf _ form
  | .subscript head index => by
    rw [World.evaluate]
    refine (covered.evaluate known head).bind fun form here => ?_
    exact (covered.evaluate known index).bind fun argument inside => over_subscript here inside
  | .call head arguments => by
    rw [World.evaluate]
    refine (covered.evaluate known head).bind fun form _ => ?_
    exact (covered.evaluateAll known arguments).bind fun forms each => over_call each form
  | .scalar value => by
    rw [World.evaluate]
    exact yields_ok.mpr trivial
  | .ellipsis => by
    rw [World.evaluate]
    exact yields_ok.mpr trivial
  | .enclosed inner => by
    rw [World.evaluate]
    exact covered.evaluate known inner
  | .display grouping items => by
    rw [World.evaluate]
    exact (covered.evaluateAll known items).bind fun forms each => over_grouped each
  | .turned turn operand => by
    rw [World.evaluate]
    exact (covered.evaluate known operand).bind fun form _ => Operation.over_turn turn form
  | .combined operator left right => by
    rw [World.evaluate]
    refine (covered.evaluate known left).bind fun first here => ?_
    exact (covered.evaluate known right).bind fun second behind => over_combine here behind
  | .compared comparison left right => by
    rw [World.evaluate]
    intro form found
    obtain ⟨first, _, found⟩ := bind_eq_ok_iff.mp found
    obtain ⟨second, _, found⟩ := bind_eq_ok_iff.mp found
    obtain ⟨value, _, found⟩ := bind_eq_ok_iff.mp found
    cases found
    exact Form.over_ofFlag value
  | .conjunction operands => by
    rw [World.evaluate]
    exact covered.evaluateUntil known false operands
  | .disjunction operands => by
    rw [World.evaluate]
    exact covered.evaluateUntil known true operands
  | .conditional condition yes no => by
    rw [World.evaluate]
    refine (covered.evaluate known condition).bind fun form _ => ?_
    exact ite_yields (covered.evaluate known yes) (covered.evaluate known no)

theorem Over.evaluateAll (covered : world.Over p) {names : Lookup} (known : names.Over p) :
    ∀ expressions, Yields (world.evaluateAll names expressions) fun forms =>
      ∀ form ∈ forms, form.Over p
  | [] => by
    rw [World.evaluateAll]
    simp
  | expression :: rest => by
    rw [World.evaluateAll]
    refine (covered.evaluate known expression).bind fun first here => ?_
    refine (covered.evaluateAll known rest).bind fun others behind => ?_
    exact yields_pure.mpr (List.forall_mem_cons.mpr ⟨here, behind⟩)

theorem Over.evaluateUntil (covered : world.Over p) {names : Lookup} (known : names.Over p)
    (wanted : Bool) :
    ∀ expressions, Yields (world.evaluateUntil names wanted expressions) (Form.Over p)
  | [] => by
    rw [World.evaluateUntil]
    exact yields_ok.mpr trivial
  | [expression] => by
    rw [World.evaluateUntil]
    exact covered.evaluate known expression
  | expression :: next :: rest => by
    rw [World.evaluateUntil]
    · refine (covered.evaluate known expression).bind fun form here => ?_
      exact ite_yields (yields_pure.mpr here) (covered.evaluateUntil known wanted (next :: rest))
    · exact nofun

end

end World

/-! ## Reading texts -/

namespace Form

/-- What a reader reads is over the set. -/
def Reader.Over (p : ClassRef → Prop) (read : Reader) : Prop :=
  ∀ place text spelling, Yields (read place text spelling) (Form.Over p)

mutual

theorem Over.resolved {read : Reader} (reads : read.Over p) :
    ∀ {form : Form}, form.Over p → Yields (form.resolved read) (Form.Over p)
  | .atom a, covered => by
    cases a with
    | forward text spelling =>
      rw [Form.resolved]
      exact reads _ _ _
    | _ =>
      rw [Form.resolved] <;> first | exact yields_ok.mpr covered | exact nofun
  | .generic head arguments, covered => by
    rw [Form.Over] at covered
    rw [Form.resolved]
    split
    · refine (AllOver.resolvedArguments reads covered.2).bind fun types each => ?_
      exact yields_pure.mpr ⟨covered.1, allOver_iff.mpr each⟩
    · refine (AllOver.resolvedAll reads covered.2).bind fun types each => ?_
      exact yields_pure.mpr ⟨covered.1, allOver_iff.mpr each⟩
  | .union barred options, covered => by
    rw [Form.Over] at covered
    rw [Form.resolved]
    exact (AllOver.resolvedAll reads covered).bind fun types each => over_unionOf each
  | .annotated type notes, covered => by
    rw [Form.Over, allOver_iff] at covered
    by_cases reference : ∃ text spelling, type = .atom (.forward text spelling)
    · obtain ⟨text, spelling, rfl⟩ := reference
      rw [Form.resolved]
      refine (reads _ _ _).bind fun form here => ?_
      exact yields_pure.mpr (over_annotatedOf here covered.2)
    · rw [Form.resolved]
      · refine (Over.resolved reads covered.1).bind fun form here => ?_
        exact yields_pure.mpr (over_annotatedOf here covered.2)
      · exact fun text spelling same => reference ⟨text, spelling, same⟩
  | .initVariable type, covered => by
    rw [Form.resolved]
    exact yields_ok.mpr covered
  | .group grouping items, covered => by
    rw [Form.resolved]
    exact yields_ok.mpr covered

theorem AllOver.resolvedAll {read : Reader} (reads : read.Over p) :
    ∀ {forms : List Form}, AllOver p forms →
      Yields (resolvedAll read forms) fun resolved => ∀ form ∈ resolved, form.Over p
  | [], _ => by
    rw [Form.resolvedAll]
    simp
  | form :: rest, covered => by
    rw [Form.resolvedAll]
    refine (Over.resolved reads covered.1).bind fun first here => ?_
    refine (AllOver.resolvedAll reads covered.2).bind fun others behind => ?_
    exact yields_pure.mpr (List.forall_mem_cons.mpr ⟨here, behind⟩)

theorem AllOver.resolvedArguments {read : Reader} (reads : read.Over p) :
    ∀ {forms : List Form}, AllOver p forms →
      Yields (resolvedArguments read forms) fun resolved => ∀ form ∈ resolved, form.Over p
  | [], _ => by
    rw [Form.resolvedArguments]
    simp
  | form :: rest, covered => by
    by_cases written : ∃ text, form = .atom (.scalar (.text text))
    · obtain ⟨text, rfl⟩ := written
      rw [Form.resolvedArguments]
      have behind : ∀ form : Form, form.Over p → Yields (do
          return form :: (← Form.resolvedArguments read rest)) fun resolved =>
            ∀ form ∈ resolved, form.Over p := by
        intro first here
        refine (AllOver.resolvedArguments reads covered.2).bind fun others behind => ?_
        exact yields_pure.mpr (List.forall_mem_cons.mpr ⟨here, behind⟩)
      have known : Yields (reference text (Text.quoted text)) (Form.Over p) := over_reference text _
      refine known.bind fun form here => ?_
      split
      · exact (reads _ _ _).bind behind
      · exact (yields_pure.mpr here).bind behind
    · rw [Form.resolvedArguments]
      · refine (Over.resolved reads covered.1).bind fun first here => ?_
        refine (AllOver.resolvedArguments reads covered.2).bind fun others behind => ?_
        exact yields_pure.mpr (List.forall_mem_cons.mpr ⟨here, behind⟩)
      · exact fun text same => written ⟨text, same⟩

end

mutual

theorem Over.plain : ∀ {form : Form}, form.Over p → Yields form.plain (Form.Over p)
  | .atom a, covered => by
    rw [Form.plain]
    exact yields_ok.mpr covered
  | .generic head arguments, covered => by
    rw [Form.Over] at covered
    rw [Form.plain]
    refine (AllOver.plainAll covered.2).bind fun types each => ?_
    exact yields_pure.mpr ⟨covered.1, allOver_iff.mpr each⟩
  | .union barred options, covered => by
    rw [Form.Over] at covered
    rw [Form.plain]
    exact (AllOver.plainAll covered).bind fun types each => over_unionOf each
  | .annotated type notes, covered => by
    rw [Form.Over] at covered
    rw [Form.plain]
    exact Over.plain covered.1
  | .initVariable type, covered => by
    rw [Form.plain]
    exact yields_ok.mpr covered
  | .group grouping items, covered => by
    rw [Form.plain]
    exact yields_ok.mpr covered

theorem AllOver.plainAll : ∀ {forms : List Form}, AllOver p forms →
    Yields (plainAll forms) fun plain => ∀ form ∈ plain, form.Over p
  | [], _ => by
    rw [Form.plainAll]
    simp
  | form :: rest, covered => by
    rw [Form.plainAll]
    refine (Over.plain covered.1).bind fun first here => ?_
    refine (AllOver.plainAll covered.2).bind fun others behind => ?_
    exact yields_pure.mpr (List.forall_mem_cons.mpr ⟨here, behind⟩)

end

theorem Over.firstPart {form : Form} (covered : form.Over p) :
    Yields form.firstPart (Form.Over p) := by
  unfold Form.firstPart
  split
  · rw [Form.Over] at covered
    exact yields_ok.mpr covered.1
  · exact yields_error
  · exact yields_error

end Form

namespace World

variable {world : World}

/-- What is read from a text is over the set, however deep texts stand in texts. -/
theorem Over.read (covered : world.Over p) {names : Lookup} (known : names.Over p) (count : Nat) :
    ∀ active, Form.Reader.Over p (world.read names count active) := by
  induction count with
  | zero => exact fun _ _ _ _ => yields_error
  | succ count ih =>
    intro active place text spelling
    rw [World.read]
    refine ite_yields (yields_ok.mpr trivial) ?_
    split
    · exact yields_error
    · refine (covered.evaluate known _).bind fun value here => ?_
      refine ite_yields (here.firstPart.bind ?_) ((yields_pure.mpr here).bind ?_)
      -- The reading goes on alike behind either way to the form.
      all_goals
        intro form inside
        refine (inside.asType place referenceRule).bind fun type typed => ?_
        split
        · exact ih _ _ _ _
        · exact Form.Over.resolved (ih _) typed

theorem Over.hint (covered : world.Over p) {names : Lookup} (known : names.Over p) {written : Form}
    (here : written.Over p) : Yields (world.hint names written) (Form.Over p) := by
  unfold World.hint
  refine here.converted.bind fun form typed => ?_
  split
  · exact covered.read known _ _ _ _ _
  · exact Form.Over.resolved (covered.read known _ _) typed

theorem Over.ownHints (covered : world.Over p) {record : ClassRecord} (kept : record.Over p)
    {scope : Scope} (known : scope.Over p) : Yields (world.ownHints scope record) (Scope.Over p) := by
  have outer : Lookup.Over p ((world.moduleNames? record.ref.space).getD fun _ => none) := by
    rcases found : world.moduleNames? record.ref.space with _ | names
    · exact nofun
    · exact covered.moduleNames? found
  unfold World.ownHints
  simp only
  split
  · exact yields_throw
  next fields written =>
    refine yields_foldlM known fun entry member scope known => ?_
    refine (covered.hint (Lookup.over_deferred kept.scope outer)
      (kept.annotations fields written entry member)).bind fun form here => ?_
    exact yields_pure.mpr (known.assign here)

/-- The hints of a class are over the set. -/
theorem Over.hints (covered : world.Over p) (record : ClassRecord) :
    Yields (world.hints record) (Scope.Over p) := by
  unfold World.hints
  have found : Yields ((world.records record.lineage).reverse.foldlM world.ownHints [])
      (Scope.Over p) := by
    refine yields_foldlM Scope.over_nil fun ancestor member scope known => ?_
    have inside := mem_of_mem_records (List.mem_reverse.mp member)
    exact covered.ownHints (covered.records _ inside) known
  refine found.bind fun scope known => yields_mapM fun entry member => ?_
  exact (known entry member).plain.bind fun form here => yields_pure.mpr here

end World

end TypeContracts
