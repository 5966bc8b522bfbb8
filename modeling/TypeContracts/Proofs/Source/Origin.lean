import TypeContracts.Proofs.Host.Parts
import TypeContracts.Proofs.Result
import TypeContracts.Proofs.Source.Instantiation
import TypeContracts.Proofs.Source.Loading

/-!
# Where described types come from

The types that are described in a world come from library classes, from unions and from classes of
the contracts, each applied to arguments that are described themselves (`Described`). What stands
in a place of a type, as its element, its key, its value or an option, is one of its arguments, and
the types of the members of a class are described in a scope of such types. So everything that is
met behind a description comes from the world as well (`World.Meets.described`).

A union without options comes from one source only: several types of which each is the missing
value (`Form.isHollow`). No annotation of a union is like that, as a union of the missing value
alone is the missing value. A tuple of several missing values is.
-/

set_option autoImplicit false

namespace TypeContracts

open Result

/-! ## Hollow forms -/

namespace Form

mutual

/-- Somewhere in the form, a union or a tuple of several elements has the missing value only. -/
def isHollow : Form → Bool
  | .atom _ => false
  | .annotated type _ => type.isHollow
  | .union _ options => options.all isMissing || anyHollow options
  | .generic head arguments =>
    (Description.container? head = some .tuple && 2 ≤ arguments.length &&
      arguments.all isMissing) || anyHollow arguments
  | .initVariable type => type.isHollow
  | .group _ items => anyHollow items

def anyHollow : List Form → Bool
  | [] => false
  | form :: rest => form.isHollow || anyHollow rest

end

end Form

namespace Description

/-! ## Where types come from -/

/-- The library classes that types are described by. -/
def described : List LibraryClass :=
  LibraryClass.sequences ++ LibraryClass.mappings ++ LibraryClass.dates ++
    LibraryClass.primitives ++ LibraryClass.enumerations ++ [.typing "Any", .missing]

/-- What a described type comes from. -/
inductive Origin where
  | library (c : LibraryClass)
  | union
  | contract (c : ClassRef)
deriving DecidableEq

namespace Origin

/-- The full name of a type that comes from an origin. -/
def fullName : Origin → String
  | .library c => c.fullName
  | .union => "typing.Union"
  | .contract c => c.fullName

/-- The type that comes from an origin with arguments. -/
def host (world : World) : Origin → List (Host ClassLoader) → Host ClassLoader
  | .library c, arguments =>
    match c.role, arguments with
    | .sequence, [element] => sequence c element
    | .mapping, [key, value] => mapping c key value
    | .date, _ => { kind := .date, fullName := c.fullName, name := c.name }
    | .enumeration, _ => { kind := .enumeration, fullName := c.fullName, name := c.name }
    | _, _ => primitive c.space c.name
  | .union, options =>
    { kind := .union, fullName := "typing.Union", name := "Union",
      arguments := options, options := options }
  | .contract c, arguments =>
    match world.membersOf? c, arguments with
    | some members, [] =>
      { kind := .enumeration, fullName := c.fullName, name := c.name,
        enumMembers := members.listed }
    | _, arguments => object c arguments

/-- The origin is one that types of the world come from. -/
def Known (world : World) : Origin → Prop
  | .library c => c ∈ described
  | .union => True
  | .contract c => world.Knows c

/-- The origin takes the arguments. A union may have none only if empty unions are admitted. -/
def Takes (empties : Prop) : Origin → List (Host ClassLoader) → Prop
  | .library c, arguments =>
    arguments.length = match c.role with
      | .sequence => 1
      | .mapping => 2
      | _ => 0
  | .union, options => options = [] → empties
  | .contract _, _ => True

@[simp] theorem fullName_host (world : World) (origin : Origin) (arguments : List (Host ClassLoader)) :
    (origin.host world arguments).fullName = origin.fullName := by
  unfold host
  split
  · split <;> rfl
  · rfl
  · split <;> rfl

end Origin

/-- A type comes from an origin of the world, with its arguments, which do so as well. Whether it
is nullable is its own. The condition `empties` admits unions without options. -/
inductive Described (world : World) (empties : Prop) : Host ClassLoader → Prop
  | of {host : Host ClassLoader} (origin : Origin) (known : origin.Known world)
      (takes : origin.Takes empties host.arguments)
      (made : origin.host world host.arguments = host.asNullable false)
      (each : ∀ argument ∈ host.arguments, Described world empties argument) :
      Described world empties host

/-- The type variables of the scope stand for described types. -/
def Bindings (world : World) (empties : Prop) (scope : TypeScope) : Prop :=
  ∀ (v : TypeVariable) (host : Host ClassLoader), scope.lookup v = some host →
    Described world empties host

section

variable {world : World} {empties : Prop}

theorem Described.asNullable {host : Host ClassLoader} (here : Described world empties host)
    (nullable : Bool) : Described world empties (host.asNullable nullable) := by
  cases here with
  | of origin known takes made each => exact .of origin known takes made each

theorem Described.arguments {host : Host ClassLoader} (here : Described world empties host) :
    ∀ argument ∈ host.arguments, Described world empties argument := by
  cases here with
  | of origin known takes made each => exact each

/-- A library class that has a role is one that types are described by. -/
theorem mem_described {c : LibraryClass} {role : LibraryRole} (here : c.role = role)
    (told : role ≠ .other) : c ∈ described := by
  subst here
  unfold LibraryClass.role at told
  unfold described
  simp only [List.mem_append]
  (repeat' split at told) <;> simp_all

theorem described_sequence {c : LibraryClass} {element : Host ClassLoader} (role : c.role = .sequence)
    (here : Described world empties element) : Described world empties (sequence c element) := by
  refine .of (.library c) (mem_described role nofun) ?_ ?_ (by simpa [sequence] using here)
  · simp [Origin.Takes, role, sequence]
  · show (Origin.library c).host world [element] = _
    rw [Origin.host]
    · rfl
    · exact role

theorem described_mapping {c : LibraryClass} {key value : Host ClassLoader} (role : c.role = .mapping)
    (first : Described world empties key) (second : Described world empties value) :
    Described world empties (mapping c key value) := by
  refine .of (.library c) (mem_described role nofun) ?_ ?_ (by simpa [mapping] using ⟨first, second⟩)
  · simp [Origin.Takes, role, mapping]
  · show (Origin.library c).host world [key, value] = _
    rw [Origin.host]
    · rfl
    · exact role

/-- A library class that is neither a sequence nor a mapping is described without arguments. -/
theorem described_plain {c : LibraryClass} {host : Host ClassLoader} (known : c ∈ described)
    (single : c.role ≠ .sequence) (apart : c.role ≠ .mapping)
    (made : (Origin.library c).host world [] = host) : Described world empties host := by
  subst made
  have plain : ((Origin.library c).host world []).arguments = [] ∧
      ((Origin.library c).host world []).nullable = false := by
    cases role : c.role <;> simp [Origin.host, role, primitive]
  refine .of (.library c) known ?_ ?_ (by simp [plain.1])
  · rw [plain.1, Origin.Takes]
    split
    next role => exact absurd role single
    next role => exact absurd role apart
    next => rfl
  · rw [plain.1, ← plain.2, Host.asNullable_nullable]

theorem described_anything : Described world empties anything :=
  have known : LibraryClass.typing "Any" ∈ described := by decide
  described_plain known (by decide) (by decide) rfl

theorem described_text : Described world empties (primitive "builtins" "str") :=
  have known : LibraryClass.text ∈ described := by decide
  described_plain known (by decide) (by decide) rfl

theorem described_nothing : Described world empties nothing :=
  have known : LibraryClass.missing ∈ described := by decide
  described_plain known (by decide) (by decide) rfl

theorem described_object {c : ClassRef} {arguments : List (Host ClassLoader)} (known : world.Knows c)
    (whole : arguments = [] → world.membersOf? c = none)
    (each : ∀ argument ∈ arguments, Described world empties argument) :
    Described world empties (object c arguments) := by
  refine .of (.contract c) known trivial ?_ each
  show (Origin.contract c).host world arguments = object c arguments
  rw [Origin.host]
  intro members found empty
  rw [whole empty] at found
  cases found

theorem described_union {options : List (Host ClassLoader)} (nullable : Bool)
    (filled : options = [] → empties) (each : ∀ option ∈ options, Described world empties option) :
    Described world empties (union options nullable) := by
  unfold union
  split
  next option =>
    rw [List.forall_mem_singleton] at each
    split
    · exact each.asNullable true
    · exact each
  · exact .of .union trivial filled rfl each

/-! ## Descriptions -/

theorem eq_of_parameters? {head : Head} {c : ClassRef} (found : parameters? head = some c) :
    head = .contract c ∧ c.parameters ≠ [] := by
  unfold parameters? at found
  split at found
  · split at found <;> cases found
    next generic => exact ⟨rfl, by simpa using generic⟩
  · cases found

theorem described_ofLibrary (c : LibraryClass) :
    Yields (ofLibrary c) (Described world empties) := by
  have plain : ∀ {role host}, c.role = role → role ≠ .other → role ≠ .sequence → role ≠ .mapping →
      (Origin.library c).host world [] = host → Described world empties host :=
    fun own told single apart made =>
      described_plain (mem_described own told) (own ▸ single) (own ▸ apart) made
  unfold ofLibrary
  split
  next role => exact yields_ok.mpr (described_sequence role described_anything)
  next role => exact yields_ok.mpr (described_mapping role described_text described_anything)
  next role =>
    exact yields_ok.mpr (plain role nofun nofun nofun (by simp only [Origin.host, role]))
  next role =>
    exact yields_ok.mpr (plain role nofun nofun nofun (by simp only [Origin.host, role]))
  next role =>
    exact yields_ok.mpr (plain role nofun nofun nofun (by simp only [Origin.host, role]))
  next => exact yields_error

theorem described_ofClass {c : ClassRef} (known : world.Knows c) :
    Yields (ofClass world c) (Described world empties) := by
  unfold ofClass
  split
  · exact yields_error
  next record found =>
    split
    next members kept =>
      refine yields_ok.mpr (.of (.contract c) known trivial ?_ nofun)
      have told : world.membersOf? c = some members := by
        rw [World.membersOf?, found]
        exact kept
      show (Origin.contract c).host world [] = _
      rw [Origin.host]
      · rfl
      · exact told
    next kept =>
      have untold : world.membersOf? c = none := by
        rw [World.membersOf?, found]
        exact kept
      refine ite_yields yields_error ?_
      split
      · exact yields_error
      · exact yields_ok.mpr (described_object known (fun _ => untold) nofun)
      · exact yields_error

variable {scope : TypeScope}

theorem described_ofAtom (bound : Bindings world empties scope) {a : Atom}
    (covered : a.Over world.Knows) : Yields (ofAtom world scope a) (Described world empties) := by
  unfold ofAtom
  split
  · split
    next found => exact yields_ok.mpr (bound _ _ found)
    next => exact yields_error
  · exact yields_ok.mpr described_anything
  · exact yields_ok.mpr described_nothing
  · exact yields_ok.mpr described_nothing
  · split
    next role => exact yields_ok.mpr (described_sequence role described_anything)
    next role => exact yields_ok.mpr (described_mapping role described_text described_anything)
    next => exact yields_error
  · exact described_ofLibrary _
  · exact described_ofClass covered
  · exact yields_error
  · exact yields_error
  · exact yields_error

/-- The options of a union are described away only if all of them are the missing value. -/
theorem missing_of_ofOptions (options : List Form) :
    Yields (ofOptions world scope [] options) fun hosts =>
      hosts = [] → options.all Form.isMissing = true := by
  induction options with
  | nil => exact fun _ _ _ => rfl
  | cons form rest ih =>
    rw [ofOptions, List.any_nil, Bool.or_false, List.all_cons]
    split
    next missing =>
      rw [missing, Bool.true_and]
      exact ih
    next =>
      intro hosts described empty
      obtain ⟨first, _, described⟩ := bind_eq_ok_iff.mp described
      obtain ⟨others, _, same⟩ := bind_eq_ok_iff.mp described
      cases same
      cases empty

mutual

/-- The description of a form that mentions only classes of the world comes from the world. Empty
unions come from hollow forms only. -/
theorem described_ofForm (bound : Bindings world empties scope) :
    ∀ {form : Form}, form.Over world.Knows → (form.isHollow = true → empties) →
      Yields (ofForm world scope form) (Described world empties)
  | .atom a, covered, _ => by
    rw [ofForm]
    exact described_ofAtom bound covered
  | .annotated type notes, covered, hollow => by
    rw [Form.Over] at covered
    rw [Form.isHollow] at hollow
    rw [ofForm]
    exact described_ofForm bound covered.1 hollow
  | .union barred options, covered, hollow => by
    rw [Form.Over] at covered
    rw [Form.isHollow, Bool.or_eq_true, or_imp] at hollow
    rw [ofForm]
    exact ((described_ofOptions bound [] covered hollow.2).and (missing_of_ofOptions options)).bind
      fun hosts both => yields_pure.mpr
        (described_union _ (fun empty => hollow.1 (both.2 empty)) both.1)
  | .initVariable type, _, _ => by
    rw [ofForm]
    exact yields_error
  | .group grouping items, _, _ => by
    rw [ofForm]
    exact yields_error
  | .generic head arguments, covered, hollow => by
    rw [Form.Over] at covered
    rw [Form.isHollow, Bool.or_eq_true, or_imp] at hollow
    rw [ofForm]
    split
    next c container =>
      split
      next role =>
        have several : c = .tuple → 2 ≤ arguments.length → arguments.all Form.isMissing = true →
            empties := by
          rintro rfl many missing
          exact hollow.1 (by simp [container, many, missing])
        exact (described_ofElements bound c covered.2 several hollow.2).bind fun element here =>
          yields_pure.mpr (described_sequence role here)
      next role =>
        refine (described_ofPair bound covered.2 hollow.2).bind fun pair here => ?_
        cases pair with
        | none => exact yields_pure.mpr (described_mapping role described_text described_anything)
        | some pair =>
          have both := here pair rfl
          exact yields_pure.mpr (described_mapping role both.1 both.2)
      · exact yields_error
    next =>
      split
      · exact yields_error
      next c found =>
        obtain ⟨rfl, generic⟩ := eq_of_parameters? found
        split
        next enough =>
          refine (described_ofForms bound covered.2 hollow.2).bind fun hosts each =>
            yields_pure.mpr ?_
          refine described_object covered.1 (fun empty => ?_) each.2
          rw [empty, List.length_nil, ← enough, eq_comm, List.length_eq_zero_iff] at each
          exact absurd each.1 generic
        · exact yields_error

/-- The descriptions of several forms come from the world. -/
theorem described_ofForms (bound : Bindings world empties scope) :
    ∀ {forms : List Form}, Form.AllOver world.Knows forms →
      (Form.anyHollow forms = true → empties) →
        Yields (ofForms world scope forms) fun hosts =>
          hosts.length = forms.length ∧ ∀ host ∈ hosts, Described world empties host
  | [], _, _ => by
    rw [ofForms]
    simp
  | form :: rest, covered, hollow => by
    rw [Form.anyHollow, Bool.or_eq_true, or_imp] at hollow
    rw [ofForms]
    refine (described_ofForm bound covered.1 hollow.1).bind fun first here => ?_
    refine (described_ofForms bound covered.2 hollow.2).bind fun others behind => yields_pure.mpr ?_
    exact ⟨congrArg (· + 1) behind.1, List.forall_mem_cons.mpr ⟨here, behind.2⟩⟩

theorem described_ofOptions (bound : Bindings world empties scope) (seen : List Form) :
    ∀ {forms : List Form}, Form.AllOver world.Knows forms →
      (Form.anyHollow forms = true → empties) →
        Yields (ofOptions world scope seen forms) fun hosts =>
          ∀ host ∈ hosts, Described world empties host
  | [], _, _ => by
    rw [ofOptions]
    simp
  | form :: rest, covered, hollow => by
    rw [Form.anyHollow, Bool.or_eq_true, or_imp] at hollow
    rw [ofOptions]
    refine ite_yields (described_ofOptions bound seen covered.2 hollow.2) ?_
    refine (described_ofForm bound covered.1 hollow.1).bind fun first here => ?_
    refine (described_ofOptions bound (form :: seen) covered.2 hollow.2).bind
      fun others behind => ?_
    exact yields_pure.mpr (List.forall_mem_cons.mpr ⟨here, behind⟩)

theorem described_ofElements (bound : Bindings world empties scope) (c : LibraryClass) :
    ∀ {forms : List Form}, Form.AllOver world.Knows forms →
      (c = .tuple → 2 ≤ forms.length → forms.all Form.isMissing = true → empties) →
        (Form.anyHollow forms = true → empties) →
          Yields (ofElements world scope c forms) (Described world empties)
  | [], _, _, _ => by
    rw [ofElements]
    exact yields_ok.mpr described_anything
  | [form], covered, _, hollow => by
    rw [Form.anyHollow, Bool.or_eq_true, or_imp] at hollow
    rw [ofElements]
    exact described_ofForm bound covered.1 hollow.1
  | form :: second :: rest, covered, several, hollow => by
    have first : form.isHollow = true → empties := fun here =>
      hollow (by rw [Form.anyHollow, here, Bool.true_or])
    rw [ofElements]
    split
    next isTuple =>
      refine ite_yields (described_ofForm bound covered.1 first) ?_
      split
      · exact yields_error
      · exact ((described_ofOptions bound [] covered hollow).and (missing_of_ofOptions _)).bind
          fun hosts both => yields_pure.mpr
            (described_union _ (fun empty => several isTuple (by simp) (both.2 empty)) both.1)
    next => exact described_ofForm bound covered.1 first

theorem described_ofPair (bound : Bindings world empties scope) :
    ∀ {forms : List Form}, Form.AllOver world.Knows forms →
      (Form.anyHollow forms = true → empties) →
        Yields (ofPair world scope forms) fun pair => ∀ hosts, pair = some hosts →
          Described world empties hosts.1 ∧ Described world empties hosts.2
  | [key, value], covered, hollow => by
    rw [Form.anyHollow, Form.anyHollow, Bool.or_eq_true, Bool.or_eq_true, or_imp, or_imp] at hollow
    rw [ofPair]
    refine (described_ofForm bound covered.1 hollow.1).bind fun first here => ?_
    refine (described_ofForm bound covered.2.1 hollow.2.1).bind fun second behind =>
      yields_pure.mpr ?_
    intro hosts same
    cases same
    exact ⟨here, behind⟩
  | [], _, _ | [_], _, _ | _ :: _ :: _ :: _, _, _ => by
    rw [ofPair] <;> simp

end

theorem bindings_nil : Bindings world empties [] := by
  intro v host found
  cases found

end

end Description

/-! ## Members -/

namespace World

variable {world : World} {empties : Prop} {scope : TypeScope}

/-- An annotation of a class of the world, or an argument that a class passes to a base, is hollow:
somewhere in it, a union or a tuple of several elements has the missing value only. -/
def MentionsHollow (world : World) : Prop :=
  ∃ c record, world.record? c = some record ∧
    ((∃ hints name form, world.hints record = .ok hints ∧ hints.find? name = some form ∧
        form.isHollow = true) ∨
      ∃ entries entry, world.baseArguments record = .ok entries ∧ entry ∈ entries ∧
        entry.2.isHollow = true)

end World

namespace Description

variable {world : World} {empties : Prop} {scope : TypeScope}

/-- The members of a class are described by types of the world, when what its type parameters
stand for are types of the world. -/
theorem described_members (sound : world.Sound) (hollow : world.MentionsHollow → empties)
    (bound : Bindings world empties scope) (c : ClassRef) :
    Yields (world.members (.of c scope)) fun members =>
      ∀ member ∈ members, Described world empties member.type := by
  intro members loaded member listed
  rcases known : world.record? c with _ | record
  · rw [World.members, known] at loaded
    cases loaded
    cases listed
  · obtain ⟨hints, scope', names, hinted, extended, _, typed⟩ :=
      (World.members_eq_ok_iff known).mp loaded
    obtain ⟨hint, written, here⟩ := World.describeMembers_sound typed listed
    have covered : hint.Over world.Knows := (sound.covered.hints record hints hinted).find? written
    refine described_ofForm ?_ covered (fun here => hollow ⟨c, record, known,
      .inl ⟨hints, member.name, hint, hinted, written, here⟩⟩) _ here
    -- Each binding that the bases add is the description of an argument of theirs.
    obtain ⟨entries, asked, bind⟩ := World.memberScope_eq_ok_iff.mp extended
    have each := Bases.over_baseArguments sound.covered entries asked
    refine yields_foldlM bound (fun entry inside scope bound => ?_) scope' bind
    unfold World.bindNew
    refine ite_yields (yields_pure.mpr bound) ?_
    have clean : entry.2.isHollow = true → empties := fun here =>
      hollow ⟨c, record, known, .inr ⟨entries, entry, asked, inside, here⟩⟩
    refine (described_ofForm bound (each entry inside) clean).bind fun host here =>
      yields_pure.mpr ?_
    intro v host' found
    rw [List.lookup_append, Option.or_eq_some_iff] at found
    rcases found with before | ⟨_, last⟩
    · exact bound v host' before
    · rw [List.lookup_cons] at last
      split at last <;> cases last
      exact here

/-- The scope of a loader stands for types of the world. -/
theorem Described.bindings {host : Host ClassLoader} (here : Described world empties host)
    {c : ClassRef} (loads : host.loader = some (.of c scope)) : Bindings world empties scope := by
  cases here with
  | of origin known takes made each =>
    have loader : (origin.host world host.arguments).loader = some (.of c scope) := by
      rw [made]
      exact loads
    unfold Origin.host at loader
    split at loader
    · split at loader <;> cases loader
    · cases loader
    · split at loader <;> cases loader
      intro v bound found
      obtain ⟨front, behind, split, _⟩ := List.lookup_eq_some_iff.mp found
      exact each bound (List.of_mem_zip (split ▸ List.mem_append_right front List.mem_cons_self)).2

/-! ## Parts -/

/-- A type stands in a place of another: as its element, its key, its value or an option. -/
def IsPart (part host : Host ClassLoader) : Prop :=
  host.element = some part ∨ host.key = some part ∨ host.value = some part ∨ part ∈ host.options

theorem Origin.mem_of_isPart {origin : Origin} {arguments : List (Host ClassLoader)}
    {part : Host ClassLoader} (inside : IsPart part (origin.host world arguments)) :
    part ∈ arguments := by
  unfold Origin.host IsPart at inside
  split at inside
  · split at inside
    · simpa [sequence, eq_comm] using inside
    · simpa [mapping, eq_comm] using inside
    · simp at inside
    · simp at inside
    · simp [primitive] at inside
  · simpa using inside
  · split at inside
    · simp at inside
    · simp [object] at inside

/-- What stands in a place of a type is one of its arguments. -/
theorem Described.isPart {host part : Host ClassLoader} (here : Described world empties host)
    (inside : IsPart part host) : Described world empties part := by
  cases here with
  | of origin known takes made each =>
    have same : IsPart part (origin.host world host.arguments) := made ▸ inside
    exact each part (Origin.mem_of_isPart same)

end Description

namespace World

/-- The provider comes across a type behind a description: it is the type that a form describes,
stands in a place of a type that has been met or is one of its arguments, or is the type of a
member of it. -/
inductive Meets (world : World) (form : Form) : Host ClassLoader → Prop
  | root {host : Host ClassLoader} (described : Description.ofForm world [] form = .ok host) :
    Meets world form host
  | argument {host part : Host ClassLoader} (met : Meets world form host)
    (inside : part ∈ host.arguments) : Meets world form part
  | part {host part : Host ClassLoader} (met : Meets world form host)
    (inside : Description.IsPart part host) : Meets world form part
  | member {host : Host ClassLoader} {members : List (HostMember ClassLoader)}
    {member : HostMember ClassLoader} (met : Meets world form host)
    (loaded : host.members world.members = .ok members) (listed : member ∈ members) :
    Meets world form member.type

variable {world : World} {empties : Prop}

/-- Whatever is met comes from the world, and empty unions come from hollow annotations only. -/
theorem Meets.described (sound : world.Sound) {form : Form} (covered : form.Over world.Knows)
    (root : form.isHollow = true → empties) (below : world.MentionsHollow → empties)
    {host : Host ClassLoader} (met : world.Meets form host) :
    Description.Described world empties host := by
  induction met with
  | root found => exact Description.described_ofForm Description.bindings_nil covered root _ found
  | argument _ inside ih => exact ih.arguments _ inside
  | part _ inside ih => exact ih.isPart inside
  | @member host members member _ loaded listed ih =>
    rw [Host.members] at loaded
    split at loaded
    · cases loaded
      cases listed
    next loader loads =>
      obtain ⟨c, scope⟩ := loader
      exact Description.described_members sound below (ih.bindings loads) c members loaded member
        listed

end World

end TypeContracts
