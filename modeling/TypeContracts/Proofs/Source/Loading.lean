import TypeContracts.Proofs.Source.Definition
import TypeContracts.Source.Loading

/-!
# Loading keeps worlds sound

Executing modules only ever adds classes to a world and changes the names of its modules. A step
of loading leads from a sound world to a sound world with all classes of the first one
(`Loading.Leads`), whether it fails or not. Steps are put together from others, and so is what
they lead to, up to whole runs: every world that is reached by loading modules is sound
(`World.Loaded.sound`).
-/

set_option autoImplicit false

namespace TypeContracts

open Result

namespace Loading

variable {α β : Type} {world later : World} {post : World → α → Prop}

/-! ## Steps -/

/-- What a step ends in, and the world afterwards. -/
def outcome (step : Loading α) (world : World) : Except SourceFault α × World :=
  step.run.run world

/-- A step followed by another goes on where the first one ends, unless it fails. -/
theorem outcome_bind (step : Loading α) (next : α → Loading β) (world : World) :
    outcome (step >>= next) world =
      match outcome step world with
      | (.ok value, later) => outcome (next value) later
      | (.error fault, later) => (.error fault, later) := by
  simp only [outcome, ExceptT.run_bind, StateT.run_bind]
  cases step.run.run world with
  | mk result later => cases result <;> rfl

/-- A failure of a step is handled where the step fails. -/
theorem outcome_tryCatch (step : Loading α) (handle : SourceFault → Loading α) (world : World) :
    outcome (tryCatch step handle) world =
      match outcome step world with
      | (.ok value, later) => (.ok value, later)
      | (.error fault, later) => outcome (handle fault) later := by
  simp only [outcome, ExceptT.run_tryCatch, StateT.run_bind]
  cases step.run.run world with
  | mk result later => cases result <;> rfl

/-- From the world the step leads to a sound world with the same classes and maybe more, and to
a value, if any, that has the property in the world that is reached. -/
structure Leads (world : World) (step : Loading α) (post : World → α → Prop) : Prop where
  sound : (outcome step world).2.Sound
  extended : world.Extends (outcome step world).2
  holds : Yields (outcome step world).1 (post (outcome step world).2)

theorem leads_pure (sound : world.Sound) {value : α} (holds : post world value) :
    Leads world (pure value) post :=
  ⟨sound, .refl world, yields_ok.mpr holds⟩

theorem leads_throw (sound : world.Sound) (fault : SourceFault) :
    Leads world (throw fault) post :=
  ⟨sound, .refl world, yields_error⟩

theorem leads_modify {change : World → World} (sound : (change world).Sound)
    (extended : world.Extends (change world)) :
    Leads world (modify change) fun later _ => later = change world :=
  ⟨sound, extended, yields_ok.mpr rfl⟩

theorem leads_set (sound : later.Sound) (extended : world.Extends later) :
    Leads world (set later : Loading PUnit) fun last _ => last = later :=
  ⟨sound, extended, yields_ok.mpr rfl⟩

theorem Leads.bind {step : Loading α} {next : α → Loading β} {post' : World → β → Prop}
    (first : Leads world step post)
    (behind : ∀ value later, later.Sound → world.Extends later → post later value →
      Leads later (next value) post') :
    Leads world (step >>= next) post' := by
  obtain ⟨sound, extended, holds⟩ := first
  rcases done : outcome step world with ⟨fault | value, later⟩ <;> rw [done] at sound extended holds
  · have ended := (outcome_bind step next world).trans (by rw [done])
    constructor <;> rw [ended]
    · exact sound
    · exact extended
    · exact yields_error
  · have continued := (outcome_bind step next world).trans (by rw [done])
    obtain ⟨sound', extended', holds'⟩ := behind value later sound extended (yields_ok.mp holds)
    constructor <;> rw [continued]
    · exact sound'
    · exact extended.trans extended'
    · exact holds'

/-- Steps that end alike lead to the same. -/
theorem Leads.congr {step step' : Loading α} (leads : Leads world step' post)
    (same : outcome step world = outcome step' world) : Leads world step post := by
  constructor <;> rw [same]
  · exact leads.sound
  · exact leads.extended
  · exact leads.holds

/-- What is read is the world itself. -/
theorem leads_get_bind {next : World → Loading α} (behind : Leads world (next world) post) :
    Leads world (get >>= next) post :=
  behind.congr rfl

theorem Leads.tryCatch {step : Loading α} {handle : SourceFault → Loading α}
    (first : Leads world step post)
    (behind : ∀ fault later, later.Sound → world.Extends later → Leads later (handle fault) post) :
    Leads world (tryCatch step handle) post := by
  obtain ⟨sound, extended, holds⟩ := first
  rcases done : outcome step world with ⟨fault | value, later⟩ <;> rw [done] at sound extended holds
  · have continued := (outcome_tryCatch step handle world).trans (by rw [done])
    obtain ⟨sound', extended', holds'⟩ := behind fault later sound extended
    constructor <;> rw [continued]
    · exact sound'
    · exact extended.trans extended'
    · exact holds'
  · have ended := (outcome_tryCatch step handle world).trans (by rw [done])
    constructor <;> rw [ended]
    · exact sound
    · exact extended
    · exact holds

theorem Leads.mono {step : Loading α} {post' : World → α → Prop} (leads : Leads world step post)
    (weaker : ∀ later value, later.Sound → world.Extends later → post later value →
      post' later value) : Leads world step post' :=
  ⟨leads.sound, leads.extended, leads.holds.mono fun value => weaker _ value leads.sound leads.extended⟩

/-- What becomes of the value of a step changes nothing of what is reached. -/
theorem Leads.map {step : Loading α} (leads : Leads world step post) (change : α → β) :
    Leads world (change <$> step) fun _ _ => True := by
  rw [map_eq_pure_bind]
  exact leads.bind fun value later sound _ _ => leads_pure sound trivial

theorem Leads.discard {step : Loading α} (leads : Leads world step post) :
    Leads world (discard step) fun _ _ => True :=
  leads.map _

/-- What holds at the start of a fold and is kept by each step holds at the end. -/
theorem leads_foldlM {step : β → α → Loading β} {inputs : List α} {post : World → β → Prop}
    (each : ∀ input ∈ inputs, ∀ value later, later.Sound → world.Extends later → post later value →
      Leads later (step value input) post)
    {start : β} (sound : world.Sound) (here : post world start) :
    Leads world (inputs.foldlM step start) post := by
  induction inputs generalizing world start with
  | nil => exact leads_pure sound here
  | cons input rest ih =>
    rw [List.forall_mem_cons] at each
    rw [List.foldlM_cons]
    refine (each.1 start world sound (.refl world) here).bind fun value later sound extended kept => ?_
    exact ih (fun input member value last sound more =>
      each.2 input member value last sound (extended.trans more)) sound kept

/-- A traversal leads to values with a property that no class more takes from them. -/
theorem leads_mapM {step : α → Loading β} {inputs : List α} {post : World → β → Prop}
    (lasting : ∀ {world later : World} {value}, world.Extends later → post world value →
      post later value)
    (each : ∀ input ∈ inputs, ∀ later, later.Sound → world.Extends later →
      Leads later (step input) post) (sound : world.Sound) :
    Leads world (inputs.mapM step) fun later values => ∀ value ∈ values, post later value := by
  induction inputs generalizing world with
  | nil => exact leads_pure sound nofun
  | cons input rest ih =>
    rw [List.forall_mem_cons] at each
    rw [List.mapM_cons]
    refine (each.1 world sound (.refl world)).bind fun value later sound extended here => ?_
    refine (ih (fun input member last sound more =>
      each.2 input member last sound (extended.trans more)) sound).bind
        fun values last sound more behind => ?_
    exact leads_pure sound (List.forall_mem_cons.mpr ⟨lasting more here, behind⟩)

/-- A loop whose body leads from sound worlds to sound worlds does so as well. -/
theorem leads_forM {step : α → Loading PUnit} {inputs : List α}
    (each : ∀ input ∈ inputs, ∀ later, later.Sound → world.Extends later →
      Leads later (step input) fun _ _ => True) (sound : world.Sound) :
    Leads world (inputs.forM step) fun _ _ => True := by
  induction inputs generalizing world with
  | nil => exact leads_pure sound trivial
  | cons input rest ih =>
    rw [List.forall_mem_cons] at each
    show Leads world (step input >>= fun _ => rest.forM step) _
    refine (each.1 world sound (.refl world)).bind fun _ later sound extended _ => ?_
    exact ih (fun input member last sound more =>
      each.2 input member last sound (extended.trans more)) sound

end Loading

/-! ## Defining classes -/

namespace Definition

open Loading

variable {α : Type} {world : World}

/-- A form mentions only classes of the world. -/
def Fits (world : World) (form : Form) : Prop := form.Over world.Knows

theorem Fits.later {later : World} {form : Form} (extended : world.Extends later)
    (fits : Fits world form) : Fits later form :=
  fits.mono extended.knows

theorem leads_settled {result : Rule α} {post : World → α → Prop} (sound : world.Sound)
    (holds : Yields result (post world)) : Leads world (settled result) post := by
  cases result with
  | error fault => exact ⟨sound, .refl world, yields_error⟩
  | ok value => exact ⟨sound, .refl world, yields_ok.mpr (yields_ok.mp holds)⟩

/-- A rule changes nothing of the world. -/
theorem leads_settled_bind {β : Type} {result : Rule α} {next : α → Loading β}
    {post : World → β → Prop} (sound : world.Sound)
    (behind : ∀ value, result = .ok value → Leads world (next value) post) :
    Leads world (settled result >>= next) post := by
  cases result with
  | error fault => exact (leads_throw sound _).congr rfl
  | ok value => exact (behind value rfl).congr rfl

/-- What an annotation stands for fits the world when the names around it do. -/
theorem leads_evaluate {surroundings : Surroundings} (sound : world.Sound)
    (known : surroundings.scope.Over world.Knows) (expression : Expression) :
    Leads world (surroundings.evaluate expression) Fits := by
  have names := Lookup.over_inBody known (sound.covered.moduleScope surroundings.space)
  unfold Surroundings.evaluate
  refine leads_get_bind (leads_settled sound fun form found => ?_)
  rcases evaluated : World.evaluate world (.inBody surroundings.scope
      (world.moduleScope surroundings.space)) (expression.mapNames surroundings.known) with
    fault | form' <;> rw [evaluated] at found <;> cases found
  exact sound.covered.evaluate names _ _ evaluated

theorem leads_fieldForm {surroundings : Surroundings} (sound : world.Sound)
    (known : surroundings.scope.Over world.Knows) (expression : Expression) :
    Leads world (fieldForm surroundings expression) Fits := by
  unfold fieldForm
  split
  · exact leads_pure sound trivial
  · exact leads_evaluate sound known expression

/-! ## Bodies -/

/-- A body has defined and annotated its names by classes of the world only. -/
structure Body.Fits (world : World) (body : Body) : Prop where
  scope : body.scope.Over world.Knows
  annotations : body.annotations.Over world.Knows

theorem Body.Fits.later {later : World} {body : Body} (extended : world.Extends later)
    (fits : body.Fits world) : body.Fits later :=
  ⟨fits.scope.mono extended.knows, fits.annotations.mono extended.knows⟩

theorem Body.Fits.assign {body : Body} (fits : body.Fits world) {form : Form}
    (here : form.Over world.Knows) (name : String) (value : MemberValue) :
    (body.assign name value form).Fits world :=
  ⟨fits.scope.assign here, fits.annotations⟩

/-- Values that are assigned mention no class. -/
theorem Body.Fits.assignAll {body : Body} (fits : body.Fits world) (known : String → String)
    (members : List (String × MemberValue)) :
    Body.Fits world (members.foldl (fun body (member, value) =>
      body.assign (known member) value (valueForm value)) body) := by
  induction members generalizing body with
  | nil => exact fits
  | cons member rest ih =>
    refine ih (fits.assign ?_ _ _)
    cases member.2 <;> exact Form.over_ofValue _

theorem leads_annotate {surroundings : Surroundings} {body : Body} (sound : world.Sound)
    (fits : body.Fits world) (fields : List (String × Expression)) :
    Leads world (annotate surroundings body fields) fun later body => body.Fits later := by
  refine leads_foldlM (fun field _ body later sound _ fits => ?_) sound fits
  refine (leads_fieldForm sound fits.scope field.2).bind fun form last sound more here => ?_
  exact leads_pure sound ⟨(fits.later more).scope, (fits.later more).annotations.assign here⟩

theorem leads_addClass {record : ClassRecord} {isRecord : Bool} (sound : world.Sound)
    (made : Made world record) : Leads world (addClass record isRecord) Fits := by
  unfold addClass
  refine leads_get_bind (leads_settled_bind sound fun record fielded => ?_)
  have made := made.withFields isRecord record fielded
  refine (leads_set (sound.add made) (world.extends_add record)).bind
    fun _ later sound _ same => ?_
  subst same
  exact leads_pure sound (World.knows_add made)

mutual

/-- Defining a class with the classes that are nested in it leads to a class of the world. -/
theorem leads_define {surroundings : Surroundings} : ∀ (source : ClassSource) {world : World},
    world.Sound → surroundings.scope.Over world.Knows →
      Leads world (define surroundings source) Fits
  | ⟨written, mark, bases, fields, members, nested⟩, world, sound, known => by
    rw [define]
    have marked : Leads world (discard (mark.mapM surroundings.evaluate)) fun _ _ => True := by
      cases mark with
      | none => exact leads_pure sound trivial
      | some expression =>
        exact ((leads_evaluate sound known expression).map some).discard
    refine marked.bind fun _ world₁ sound extended _ => ?_
    have known := known.mono extended.knows
    have each : Leads world₁ (bases.mapM surroundings.evaluate) fun later forms =>
        ∀ form ∈ forms, Fits later form :=
      leads_mapM Fits.later (fun expression _ later sound more =>
        leads_evaluate sound (known.mono more.knows) expression) sound
    refine each.bind fun forms world₂ sound extended covered => ?_
    have known := known.mono extended.knows
    refine leads_get_bind (leads_settled_bind sound fun resolved stood => ?_)
    refine leads_get_bind (leads_settled_bind sound fun style _ => ?_)
    refine (leads_defineNested nested sound ⟨Scope.over_nil, Scope.over_nil⟩).bind
      fun body world₃ sound more fits => ?_
    have covered : ∀ form ∈ forms, Fits world₃ form :=
      fun form member => (covered form member).later more
    have checked : Leads world₃ (discard (settled (counted style (Text.normal written) body)))
        fun later _ => later = world₃ := by
      cases counted style (Text.normal written) body with
      | error fault => exact (leads_throw sound _).congr rfl
      | ok value =>
        have still : Leads world₃ (pure ⟨⟩ : Loading PUnit) fun later _ => later = world₃ :=
          leads_pure sound rfl
        exact still.congr rfl
    refine checked.bind fun _ later sound _ same => ?_
    subst same
    refine (leads_annotate sound fits fields).bind fun body world₄ sound more fits => ?_
    refine leads_get_bind (leads_settled_bind sound fun record done => ?_)
    have made := made_recordOf sound (fun form member => (covered form member).later more) stood
      (fits.assignAll _ members).scope (fits.assignAll _ members).annotations record done
    exact leads_addClass sound made

theorem leads_defineNested {surroundings : Surroundings} : ∀ (sources : List ClassSource)
    {world : World} {body : Body}, world.Sound → body.Fits world →
      Leads world (defineNested surroundings body sources) fun later body => body.Fits later
  | [], world, body, sound, fits => by
    rw [defineNested]
    exact leads_pure sound fits
  | source :: rest, world, body, sound, fits => by
    rw [defineNested]
    refine (leads_define source sound fits.scope).bind fun form later sound extended here => ?_
    exact leads_defineNested rest sound ((fits.later extended).assign here _ _)

end

end Definition

/-! ## Executing modules -/

namespace Loading

open Definition

variable {world : World}

/-- A step leads from every sound world to a sound world. -/
def Sound (step : Loading Unit) : Prop :=
  ∀ world : World, world.Sound → Leads world step fun _ _ => True

theorem leads_renamed (sound : world.Sound) {change : World → World}
    (same : (change world).classes = world.classes)
    (scopes : ∀ entry ∈ (change world).modules, entry.2.scope.Over world.Knows) :
    Leads world (modify change) fun _ _ => True :=
  (leads_modify (sound.renamed same scopes) (World.extends_of_classes same)).mono
    fun _ _ _ _ _ => trivial

/-- A change of a module that brings in no class keeps worlds sound. -/
theorem leads_update (sound : world.Sound) (name : String) {change : LoadedModule → LoadedModule}
    (fits : ∀ loaded : LoadedModule, loaded.scope.Over world.Knows →
      (change loaded).scope.Over world.Knows) :
    Leads world (update name change) fun _ _ => True := by
  refine leads_renamed sound rfl ?_
  intro entry member
  obtain ⟨earlier, inside, same⟩ := List.mem_map.mp member
  have before := sound.scopes earlier inside
  split at same <;> subst same
  · exact fits _ before
  · exact before

theorem leads_assign (sound : world.Sound) {form : Form} (here : form.Over world.Knows)
    (module name : String) : Leads world (assign module name form) fun _ _ => True :=
  leads_update sound module fun _ covered => covered.assign here

theorem sound_drop (name : String) : Sound (drop name) := fun _ sound =>
  leads_renamed sound rfl fun entry member => sound.scopes entry (List.mem_of_mem_filter member)

theorem sound_keep (name : String) {module : LoadedModule} (empty : module.scope = []) :
    Sound (keep name module) := by
  intro world sound
  refine (sound_drop name world sound).bind fun _ later sound _ _ => ?_
  refine leads_renamed sound rfl fun entry member => ?_
  rcases List.mem_append.mp member with before | last
  · exact sound.scopes entry before
  · rw [List.mem_singleton.mp last, empty]
    exact Scope.over_nil

/-! ## Imports -/

section

variable {rootText : String} {load : String → Loading Unit} (loads : ∀ name, Sound (load name))
include loads

theorem sound_loadBelow (loaded : LoadedModule) (inner : String) :
    Sound (loadBelow load loaded inner) := by
  intro world sound
  unfold loadBelow
  split
  · refine (loads inner world sound).tryCatch fun fault later sound _ => ?_
    split
    · exact leads_pure sound trivial
    · exact leads_throw sound fault
  · exact leads_pure sound trivial

/-- What is imported from a module fits the world that the import leads to. -/
theorem leads_importedForm (sound : world.Sound) (module name : String) :
    Leads world (importedForm rootText load module name) Fits := by
  unfold importedForm
  refine leads_get_bind ?_
  split
  · refine leads_pure sound ?_
    rcases found : Lookup.inLibrary module name with _ | form
    · trivial
    · exact Lookup.over_inLibrary module name form found
  · split
    next found => exact leads_pure sound ((sound.covered.moduleScope module).find? found)
    next =>
      refine (sound_loadBelow loads _ _ world sound).bind fun _ later sound _ _ => ?_
      unfold laterForm
      refine leads_get_bind ?_
      split
      next found => exact leads_pure sound ((sound.covered.moduleScope module).find? found)
      next =>
        simp only
        split
        · exact leads_pure sound trivial
        · exact leads_throw sound _

/-- Executing an import keeps worlds sound. -/
theorem sound_executeImport (source : ModuleSource) (written : ImportSource) :
    Sound (executeImport rootText load source written) := by
  intro world sound
  unfold executeImport
  have named : Leads world (liftM (fullName source (Text.normal written.module)) : Loading String)
      fun _ _ => True := by
    cases fullName source (Text.normal written.module) with
    | error fault => exact (leads_throw sound fault).congr rfl
    | ok name =>
      have still : Leads world (pure name : Loading String) fun _ _ => True :=
        leads_pure sound trivial
      exact still.congr rfl
  refine named.bind fun module later sound _ _ => ?_
  refine (loads module later sound).bind fun _ later sound _ _ => ?_
  cases written with
  | one _ name known =>
    refine (leads_importedForm loads sound module _).bind fun form later sound _ here => ?_
    exact leads_assign sound here source.name _
  | all _ =>
    have covered := sound.covered.moduleScope module
    have each : ∀ entry ∈ later.moduleScope module, ∀ last : World, last.Sound →
        later.Extends last → Leads last (if Text.startsWith "_" entry.1 then pure ()
          else assign source.name entry.1 entry.2) fun _ _ => True := by
      intro entry member last sound more
      split
      · exact leads_pure sound trivial
      · exact leads_assign sound ((covered entry member).mono more.knows) source.name _
    exact leads_get_bind (leads_forM each sound)
  | space _ known =>
    have here : ∀ space, Fits later (.atom (.space space)) := fun _ => trivial
    cases known with
    | some known => exact leads_assign sound (here _) source.name _
    | none => exact leads_assign sound (here _) source.name _

end

/-! ## Bodies of modules -/

theorem over_given (source : ModuleSource) : (given source).Over world.Knows := by
  unfold given
  simp only [Scope.Over, List.forall_mem_append, List.forall_mem_cons, List.forall_mem_map]
  refine ⟨⟨⟨Form.over_ofValue _, trivial, nofun⟩, ?_⟩, fun _ _ => trivial⟩
  split
  · rw [List.forall_mem_singleton]
    trivial
  · exact nofun

theorem sound_refuse (source : ModuleSource) : Sound (refuse source) := by
  intro world sound
  unfold refuse
  split
  · exact leads_get_bind (leads_throw sound _)
  · exact leads_pure sound trivial

theorem sound_declare (source : ModuleSource) (name : String) : Sound (declare source name) := by
  intro world sound
  unfold declare
  refine leads_get_bind ?_
  refine Leads.bind (leads_set ?_ ?_) fun _ later sound _ _ => ?_
  · exact sound.renamed rfl sound.scopes
  · exact World.extends_of_classes rfl
  have here : ∀ v, Fits later (.atom (.variable v)) := fun _ => trivial
  exact leads_assign sound (here _) source.name _

theorem sound_defineClass (source : ModuleSource) (written : ClassSource) :
    Sound (defineClass source written) := by
  intro world sound
  unfold defineClass
  refine (leads_define written sound Scope.over_nil).bind fun form later sound _ here => ?_
  exact leads_assign sound here source.name _

/-! ## Runs -/

section

variable {rootText : String} {load : String → Loading Unit} (loads : ∀ name, Sound (load name))
include loads

/-- Executing a module keeps worlds sound. -/
theorem sound_execute (source : ModuleSource) : Sound (execute rootText load source) := by
  intro world sound
  unfold execute
  refine (leads_forM (fun entry member later sound _ =>
    leads_assign sound (over_given source entry member) source.name _) sound).bind
      fun _ later sound _ _ => ?_
  refine (sound_refuse source later sound).bind fun _ later sound _ _ => ?_
  refine (leads_forM (fun written _ later sound _ =>
    sound_executeImport loads source written later sound) sound).bind fun _ later sound _ _ => ?_
  refine (leads_forM (fun name _ later sound _ => sound_declare source name later sound)
    sound).bind fun _ later sound _ _ => ?_
  exact leads_forM (fun written _ later sound _ => sound_defineClass source written later sound)
    sound

theorem sound_enter (source : ModuleSource) (file : Option Location) :
    Sound (enter rootText load source file) := by
  intro world sound
  unfold enter
  refine (sound_keep _ rfl world sound).bind fun _ later sound _ _ => ?_
  refine ((sound_execute loads source later sound).tryCatch fun fault later sound _ => ?_).bind
    fun _ later sound _ _ => leads_update sound _ fun _ covered => covered
  exact (sound_drop _ later sound).bind fun _ later sound _ _ => leads_throw sound fault

end

theorem sound_enterFound {shelf : Shelf} {load : String → Loading Unit}
    (loads : ∀ name, Sound (load name)) (name : String) : Sound (enterFound shelf load name) := by
  intro world sound
  unfold enterFound
  split
  · exact leads_throw sound _
  · exact sound_keep _ rfl world sound
  · exact sound_enter loads _ _ world sound

theorem leads_isThere (sound : world.Sound) (name : String) :
    Leads world (isThere name) fun _ _ => True :=
  leads_get_bind (leads_pure sound trivial)

theorem leads_isPackage (sound : world.Sound) (name : String) :
    Leads world (isPackage name) fun _ _ => True :=
  leads_get_bind (leads_pure sound trivial)

theorem sound_loadInner {shelf : Shelf} {load : String → Loading Unit}
    (loads : ∀ name, Sound (load name)) (name parent own : String) :
    Sound (loadInner shelf load name parent own) := by
  intro world sound
  unfold loadInner
  refine (leads_isThere sound name).bind fun there later sound _ _ => ?_
  cases there with
  | true => exact leads_pure sound trivial
  | false =>
    refine (leads_isPackage sound parent).bind fun packed later sound _ _ => ?_
    cases packed with
    | true =>
      refine (sound_enterFound loads name later sound).bind fun _ later sound _ _ => ?_
      have here : ∀ space, Fits later (.atom (.space space)) := fun _ => trivial
      exact leads_assign sound (here name) parent own
    | false => exact leads_throw sound _

/-- Loading a module with all that it imports keeps worlds sound. -/
theorem sound_load (shelf : Shelf) (depth : Nat) : ∀ name, Sound (load shelf depth name) := by
  induction depth with
  | zero => exact fun _ _ sound => leads_throw sound _
  | succ depth ih =>
    intro name world sound
    rw [load]
    refine (leads_isThere sound name).bind fun there later sound _ _ => ?_
    cases there with
    | true => exact leads_pure sound trivial
    | false =>
      rcases Text.cutLast? '.' name.toList with _ | ⟨front, last⟩
      · exact sound_enterFound ih name later sound
      · refine (ih _ later sound).bind fun _ later sound _ _ => ?_
        exact sound_loadInner ih name _ _ later sound

theorem sound_require (shelf : Shelf) (name : String) : Sound (require shelf name) :=
  sound_load shelf _ name

theorem sound_requireGiven (shelf : Shelf) (name : String) : Sound (requireGiven shelf name) := by
  intro world sound
  unfold requireGiven
  split
  · exact leads_throw sound _
  · split
    · exact leads_throw sound _
    · exact sound_require shelf name world sound

theorem sound_enterAll (sources : List ModuleSource) : Sound (enterAll sources) := fun _ sound =>
  leads_forM (fun _ _ later sound _ =>
    sound_enter (sound_require Shelf.empty) _ none later sound) sound

theorem sound_reload (shelf : Shelf) (name : String) : Sound (reload shelf name) := by
  intro world sound
  unfold reload
  split
  · exact leads_throw sound _
  · exact leads_update sound name fun _ covered => covered
  · refine Leads.bind (leads_update sound name ?_) fun _ later sound _ _ => ?_
    · exact fun _ covered => covered
    · exact sound_execute (sound_require shelf) _ later sound

theorem sound_reloadAll (shelf : Shelf) (names : List String) : Sound (reloadAll shelf names) := by
  intro world sound
  unfold reloadAll
  refine leads_get_bind ?_
  exact leads_forM (fun name _ later sound _ => sound_reload shelf name later sound) sound

end Loading

/-- A world that loading modules reaches, with whatever modules there are. A run goes on from
where it was, also behind a failure, and from where modules are executed again. -/
inductive World.Loaded : World → Prop
  | start : Loaded {}
  | enter {world : World} (loaded : Loaded world) (sources : List ModuleSource) :
    Loaded ((Loading.enterAll sources).outcome world).2
  | require {world : World} (loaded : Loaded world) (shelf : Shelf) (name : String) :
    Loaded ((Loading.requireGiven shelf name).outcome world).2
  | reload {world : World} (loaded : Loaded world) (shelf : Shelf) (names : List String) :
    Loaded ((Loading.reloadAll shelf names).outcome world).2

/-- Every world that loading reaches is sound. -/
theorem World.Loaded.sound {world : World} (loaded : world.Loaded) : world.Sound := by
  induction loaded with
  | start => exact World.sound_empty
  | enter _ sources ih => exact (Loading.sound_enterAll sources _ ih).sound
  | require _ shelf name ih => exact (Loading.sound_requireGiven shelf name _ ih).sound
  | reload _ shelf names ih => exact (Loading.sound_reloadAll shelf names _ ih).sound

end TypeContracts
