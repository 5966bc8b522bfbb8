import TypeContracts.Proofs.Source.Chain
import TypeContracts.Proofs.Source.Instantiation
import TypeContracts.Proofs.Source.Locality

/-!
# Binding what bases tell

The arguments that the bases of a class tell are bound one after another in a scope that grows. Two
things hold at every step: the scope has what the chain to the class at hand has passed to it, and
all that it has is what a type variable stands for on some chain (`World.Within`). So each argument
is described as on its chain, whether its variable is bound to it now or was bound before, and no
variable is missed. The steps are put together along the arguments of a base
(`World.settles_passed`), the bases of a class (`World.binds_bases`) and the classes behind each
other (`World.binds_told`).
-/

set_option autoImplicit false

namespace TypeContracts

open Result

namespace World

open Description

variable {world : World} {record parent ancestor : ClassRecord} {own scope : TypeScope}

/-! ## Scopes -/

/-- What a scope binds, the wider scope binds to the same. -/
def Includes (scope wider : TypeScope) : Prop :=
  ∀ (v : TypeVariable) (host : Host ClassLoader), scope.lookup v = some host →
    wider.lookup v = some host

theorem Includes.refl (scope : TypeScope) : Includes scope scope := fun _ _ bound => bound

theorem includes_nil (wide : TypeScope) : Includes [] wide := fun _ _ bound => by cases bound

theorem Includes.trans {wider widest : TypeScope} (first : Includes scope wider)
    (second : Includes wider widest) : Includes scope widest :=
  fun v host bound => second v host (first v host bound)

/-- Type variables of the scope stand for what they stand for on the chains from the class. -/
def Within (world : World) (record : ClassRecord) (own wide : TypeScope) : Prop :=
  ∀ (v : TypeVariable) (host : Host ClassLoader), wide.lookup v = some host →
    world.Means record own v host

/-- The fault does not report a type variable that is not bound. -/
def IsBound (fault : Fault) : Prop := ∀ text, fault ≠ .unresolved text .unboundVariable

/-- The result is a scope with a property, or fails without missing a type variable. -/
def Settles (result : Except Fault TypeScope) (p : TypeScope → Prop) : Prop :=
  Yields result p ∧ Fails result IsBound

theorem Settles.bind {first : Except Fault TypeScope} {next : TypeScope → Except Fault TypeScope}
    {p q : TypeScope → Prop} (here : Settles first p)
    (behind : ∀ scope, p scope → Settles (next scope) q) : Settles (first >>= next) q :=
  ⟨here.1.bind fun scope holds => (behind scope holds).1,
    here.2.bind_of_ok fun scope found => (behind scope (here.1 scope found)).2⟩

theorem settles_pure {scope : TypeScope} {p : TypeScope → Prop} (holds : p scope) :
    Settles (pure scope) p :=
  ⟨yields_pure.mpr holds, fails_pure⟩

theorem Settles.mono {result : Except Fault TypeScope} {p q : TypeScope → Prop}
    (here : Settles result p) (weaker : ∀ scope, p scope → q scope) : Settles result q :=
  ⟨here.1.mono weaker, here.2⟩

/-- A form whose variables are bound does not miss one. -/
theorem isBound_ofForm {form : Form} (bound : ∀ v ∈ form.typeVariables, (scope.lookup v).isSome) :
    Fails (ofForm world scope form) IsBound := by
  refine (fails_ofForm form).mono fun fault reports text same => ?_
  subst same
  obtain ⟨v, used, unbound⟩ := reports
  have here := bound v used
  rw [unbound] at here
  cases here

/-- A form is described alike in a wider scope when its variables are bound. -/
theorem Includes.ofForm_eq (world : World) {wide : TypeScope} (wider : Includes scope wide)
    {form : Form} (bound : ∀ v ∈ form.typeVariables, (scope.lookup v).isSome) :
    ofForm world wide form = ofForm world scope form := by
  refine ofForm_congr fun v used => ?_
  obtain ⟨host, known⟩ := Option.isSome_iff_exists.mp (bound v used)
  rw [known, wider v host known]

section

variable (coherent : world.Coherent record own) (chain : world.Passes record own parent scope)
include coherent chain

/-- Binding what a class on a chain passes on: its type variable comes to stand for the described
argument, whether it was bound before or not. -/
theorem settles_bindNew {entry : TypeVariable × Form} (passed : entry ∈ parent.passed)
    {wide : TypeScope} (wider : Includes scope wide) (within : world.Within record own wide) :
    Settles (world.bindNew wide entry) fun later =>
      Includes wide later ∧ world.Within record own later ∧
        ∃ host, ofForm world scope entry.2 = .ok host ∧ later.lookup entry.1 = some host := by
  have bound := coherent.given chain entry passed
  have same := wider.ofForm_eq world bound
  unfold bindNew
  split
  next known =>
    obtain ⟨host, known⟩ := Option.isSome_iff_exists.mp known
    exact settles_pure ⟨.refl wide, within, host,
      coherent.agree chain entry passed host (within _ _ known), known⟩
  next unknown =>
    have absent : wide.lookup entry.1 = none := Option.not_isSome_iff_eq_none.mp unknown
    rw [same]
    rcases described : ofForm world scope entry.2 with fault | host
    · exact ⟨yields_error, fails_error.mpr (isBound_ofForm bound fault described)⟩
    · refine settles_pure ⟨fun v other known => ?_, fun v other known => ?_, host, rfl, ?_⟩
      · rw [List.lookup_append, known, Option.some_or]
      · rw [List.lookup_append, Option.or_eq_some_iff] at known
        rcases known with before | ⟨_, last⟩
        · exact within v other before
        · rw [List.lookup_cons] at last
          split at last
          next own =>
            cases last
            exact .passed chain (eq_of_beq own ▸ passed) described
          next => cases last
      · rw [List.lookup_append, absent, Option.none_or, List.lookup_cons_self]

theorem settles_passed {entries : List (TypeVariable × Form)} (passed : entries ⊆ parent.passed)
    {wide : TypeScope} (wider : Includes scope wide) (within : world.Within record own wide) :
    Settles (entries.foldlM world.bindNew wide) fun later =>
      Includes wide later ∧ world.Within record own later ∧
        ∀ entry ∈ entries, ∃ host, ofForm world scope entry.2 = .ok host ∧
          later.lookup entry.1 = some host := by
  induction entries generalizing wide with
  | nil => exact settles_pure ⟨.refl wide, within, List.forall_mem_nil _⟩
  | cons entry rest ih =>
    rw [List.cons_subset] at passed
    rw [List.foldlM_cons]
    refine (settles_bindNew coherent chain passed.1 wider within).bind ?_
    rintro next ⟨more, within, host, described, known⟩
    refine (ih passed.2 (wider.trans more) within).mono ?_
    rintro later ⟨still, within, each⟩
    exact ⟨more.trans still, within,
      List.forall_mem_cons.mpr ⟨⟨host, described, still _ _ known⟩, each⟩⟩

end

/-- Arguments that can be described give what the type variables stand for. -/
theorem exists_describePassed {entries : List (TypeVariable × Form)} {wide : TypeScope}
    (each : ∀ entry ∈ entries, ∃ host, ofForm world scope entry.2 = .ok host ∧
      wide.lookup entry.1 = some host) :
    ∃ passed, world.describePassed scope entries = .ok passed ∧ Includes passed wide := by
  induction entries with
  | nil => exact ⟨[], rfl, includes_nil wide⟩
  | cons entry rest ih =>
    rw [List.forall_mem_cons] at each
    obtain ⟨⟨host, described, known⟩, behind⟩ := each
    obtain ⟨others, later, included⟩ := ih behind
    refine ⟨(entry.1, host) :: others, ?_, fun v other found => ?_⟩
    · rw [describePassed, List.mapM_cons, described]
      exact bind_eq_ok_iff.mpr ⟨_, rfl, bind_eq_ok_iff.mpr ⟨_, later, rfl⟩⟩
    · rw [List.lookup_cons] at found
      split at found
      next own =>
        cases found
        exact eq_of_beq own ▸ known
      next => exact included v other found

/-- What a type variable stands for among described arguments is the description of one. -/
theorem exists_of_describePassed {entries : List (TypeVariable × Form)} {passed : TypeScope}
    (described : world.describePassed scope entries = .ok passed) {v : TypeVariable}
    {host : Host ClassLoader} (found : passed.lookup v = some host) :
    ∃ argument, (v, argument) ∈ entries ∧ ofForm world scope argument = .ok host := by
  obtain ⟨front, behind, split, _⟩ := List.lookup_eq_some_iff.mp found
  have member : (v, host) ∈ passed := split ▸ List.mem_append_right front List.mem_cons_self
  obtain ⟨⟨v', argument⟩, inside, here⟩ := exists_of_mem_mapM described member
  obtain ⟨host', described, same⟩ := bind_eq_ok_iff.mp here
  cases same
  exact ⟨argument, inside, described⟩

/-- Binding the arguments leads from a scope to a wider one of what type variables stand for on the
chains from the class. -/
def Binds (world : World) (record : ClassRecord) (own wide : TypeScope)
    (entries : List (TypeVariable × Form)) : Prop :=
  Settles (entries.foldlM world.bindNew wide) fun later =>
    Includes wide later ∧ world.Within record own later

theorem binds_nil {wide : TypeScope} (within : world.Within record own wide) :
    world.Binds record own wide [] :=
  settles_pure ⟨.refl wide, within⟩

theorem Binds.append {wide : TypeScope} {front behind : List (TypeVariable × Form)}
    (first : world.Binds record own wide front)
    (later : ∀ next, Includes wide next → world.Within record own next →
      world.Binds record own next behind) : world.Binds record own wide (front ++ behind) := by
  rw [Binds, List.foldlM_append]
  refine first.bind fun next both => (later next both.1 both.2).mono fun last more => ?_
  exact ⟨both.1.trans more.1, more.2⟩

/-- Binding what is passed to a base, and then what the base tells. -/
theorem binds_applied (coherent : world.Coherent record own)
    (chain : world.Passes record own parent scope) {c : ClassRef} {arguments : List Form}
    (base : (c, arguments) ∈ parent.applied) {behind : List (TypeVariable × Form)}
    (told : Bases.behind world c = .ok behind)
    (later : ∀ {ancestor passed wide}, world.record? c = some ancestor →
      world.Passes record own ancestor passed → Includes passed wide →
        world.Within record own wide → world.Binds record own wide behind)
    {wide : TypeScope} (wider : Includes scope wide) (within : world.Within record own wide) :
    world.Binds record own wide (c.parameters.zip arguments ++ behind) := by
  rw [Binds, List.foldlM_append]
  refine (settles_passed coherent chain (fun entry => ClassRecord.mem_passed base) wider
    within).bind ?_
  rintro next ⟨more, within, each⟩
  rcases known : world.record? c with _ | ancestor
  · rw [Bases.behind, known] at told
    cases told
    exact settles_pure ⟨more, within⟩
  · obtain ⟨passed, described, included⟩ := exists_describePassed each
    refine (later known (.applied chain base described known) included within).mono ?_
    exact fun last both => ⟨more.trans both.1, both.2⟩

/-- Binding what is passed to one base after another, with what each of them tells. -/
theorem binds_bases (coherent : world.Coherent record own)
    (chain : world.Passes record own parent scope) {bases : List Form}
    {lists : List (List (TypeVariable × Form))}
    (all : ∀ {c arguments}, .generic (.contract c) arguments ∈ bases →
      (c, arguments) ∈ parent.applied)
    (told : bases.mapM (Bases.argumentsOf world) = .ok lists)
    (later : ∀ {c arguments behind ancestor passed wide}, (c, arguments) ∈ parent.applied →
      Bases.behind world c = .ok behind → world.record? c = some ancestor →
        world.Passes record own ancestor passed → Includes passed wide →
          world.Within record own wide → world.Binds record own wide behind)
    {wide : TypeScope} (wider : Includes scope wide) (within : world.Within record own wide) :
    world.Binds record own wide lists.flatten := by
  induction bases generalizing lists wide with
  | nil =>
    cases told
    exact binds_nil within
  | cons form rest ih =>
    rw [List.mapM_cons] at told
    obtain ⟨list, first, told⟩ := bind_eq_ok_iff.mp told
    obtain ⟨others, behind, same⟩ := bind_eq_ok_iff.mp told
    cases same
    refine Binds.append ?_ fun next more within =>
      ih (fun base => all (List.mem_cons_of_mem _ base)) behind (wider.trans more) within
    unfold Bases.argumentsOf at first
    split at first
    next c arguments =>
      rcases here : Bases.behind world c with sort | entries <;> rw [here] at first <;> cases first
      have base := all List.mem_cons_self
      exact binds_applied coherent chain base here (later base here) wider within
    next =>
      cases first
      exact binds_nil within

/-- Binding all that a class on a chain tells. The induction is on the number of the class: its
bases were there before it. -/
theorem binds_told (sound : world.Sound) (member : record ∈ world.classes)
    (coherent : world.Coherent record own) (number : Nat) :
    ∀ {parent : ClassRecord} {scope wide : TypeScope} {entries : List (TypeVariable × Form)},
      parent.ref.number = number → world.Passes record own parent scope → Includes scope wide →
        world.Within record own wide → world.baseArguments parent = .ok entries →
          world.Binds record own wide entries := by
  induction number using Nat.strongRecOn with
  | ind number ih =>
    intro parent scope wide entries numbered chain wider within told
    have parented := chain.mem member
    have here := sound.records parent parented
    rcases written : parent.written with _ | sort | forms
    · by_cases none : entries = []
      · exact none ▸ binds_nil within
      · -- What it tells is told by a plain base, to which nothing is passed.
        obtain ⟨below, ancestor, base, known, told⟩ :=
          exists_base_of_written sound parented written none told
        obtain ⟨_, known', smaller⟩ := sound.exists_of_base parented base.1
        obtain rfl : ancestor = _ := Option.some.inj (known.symm.trans known')
        exact ih _ (numbered ▸ smaller) rfl (.plain chain base known) (includes_nil wide) within told
    · rw [baseArguments_of_written sound parented written] at told
      cases told
    · rw [baseArguments_of_written sound parented written] at told
      obtain ⟨lists, traversed, same⟩ :=
        bind_eq_ok_iff.mp (show Bases.allArguments world forms = _ from told)
      cases same
      refine binds_bases coherent chain
        (fun base => ClassRecord.mem_applied.mpr ⟨forms, written, base⟩) traversed ?_ wider within
      intro c arguments behind ancestor passed wide base told known chain wider within
      obtain ⟨_, kept, inside⟩ := ClassRecord.mem_applied.mp base
      have smaller : ancestor.ref.number < number := by
        have covered := here.written _ kept _ inside
        rw [Form.Over] at covered
        rw [sound.numbered c.number ancestor known, ← numbered]
        exact covered.1.2
      rw [Bases.behind, known] at told
      exact ih _ smaller rfl chain wider within told

end World

end TypeContracts
