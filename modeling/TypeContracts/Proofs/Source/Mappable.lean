import TypeContracts.Graph.Builder
import TypeContracts.Proofs.Mapping.Refusal
import TypeContracts.Proofs.Source.Locality
import TypeContracts.Proofs.Source.Origin

/-!
# What is described can be mapped

Every described type has the parts that its shape needs, and all primitives that are described are
known to the mapping rules. So only a union without options cannot be mapped, and describing gives
one only for a hollow form: a tuple of several elements that are all the missing value
(`World.mappable_of_meets`). A tuple of one missing value, or of any number of them, is a sequence of
missing values. A tuple of two is described as a sequence of a union without options, which is
refused (`World.mappable_of_meets_pair`).
-/

set_option autoImplicit false

namespace TypeContracts

open Result MappingM

namespace Description

variable {world : World} {empties : Prop}

/-! ## Described types are complete -/

/-- A type that comes from an origin with arguments that the origin takes has the parts that its
shape needs. -/
theorem Origin.hasParts_host {origin : Origin} (known : origin.Known world)
    {arguments : List (Host ClassLoader)} (takes : origin.Takes empties arguments) :
    (origin.host world arguments).hasParts = true := by
  -- The library classes that stand for primitives are known to the mapping rules.
  have primitives : ∀ c ∈ described, c.role = .primitive ∨ c.role = .other →
      (primitive c.space c.name).hasParts = true := by
    decide +kernel
  cases origin with
  | library c =>
    unfold Origin.host
    simp only [Takes] at takes
    simp only
    cases role : c.role <;> rw [role] at takes
    case sequence =>
      obtain ⟨element, rfl⟩ := List.length_eq_one_iff.mp takes
      rfl
    case mapping =>
      obtain ⟨key, value, rfl⟩ := List.length_eq_two.mp takes
      rfl
    case date => rfl
    case enumeration => rfl
    case primitive => exact primitives c known (.inl role)
    case other => exact primitives c known (.inr role)
  | union => rfl
  | contract c =>
    unfold Origin.host
    simp only
    split <;> rfl

theorem Described.hasParts {host : Host ClassLoader} (here : Described world empties host) :
    host.hasParts = true := by
  cases here with
  | of origin known takes made each =>
    have whole := Origin.hasParts_host known takes
    rw [made] at whole
    exact whole

/-- A part of a described type is described. -/
theorem Described.of_mem_parts {host part : Host ClassLoader} (here : Described world empties host)
    (inside : part ∈ host.parts) : Described world empties part := by
  rw [Host.parts] at inside
  split at inside
  · exact here.isPart (.inl (Option.mem_toList.mp inside))
  · rcases List.mem_append.mp inside with keyed | valued
    · obtain ⟨key, found, rfl⟩ := Option.map_eq_some_iff.mp (Option.mem_toList.mp keyed)
      exact (here.isPart (.inr (.inl found))).asNullable false
    · exact here.isPart (.inr (.inr (.inl (Option.mem_toList.mp valued))))
  · exact here.isPart (.inr (.inr (.inr inside)))
  · cases inside

theorem Described.complete {host : Host ClassLoader} (here : Described world empties host) :
    host.Complete := by
  induction host using Host.induction with
  | step host ih =>
    exact .of here.hasParts fun part inside => ih part inside (here.of_mem_parts inside)

/-- A union without options in a described type is one that is admitted. -/
theorem Described.empties_of_blank {host : Host ClassLoader} (here : Described world empties host)
    (blank : host.Blank) : empties := by
  induction blank with
  | part inside _ ih => exact ih (here.of_mem_parts inside)
  | @empty host kind options =>
    cases here with
    | of origin known takes made each =>
      have shape := congrArg Host.kind made
      have listed := congrArg Host.options made
      rw [Host.kind_asNullable, kind] at shape
      replace listed : (origin.host world host.arguments).options = [] := listed.trans options
      unfold Origin.host at shape
      split at shape
      · split at shape <;> cases shape
      · exact takes listed
      · split at shape <;> cases shape

/-! ## Tuples of missing values -/

theorem ofOptions_of_missing {scope : TypeScope} {options : List Form}
    (missing : options.all Form.isMissing = true) : ofOptions world scope [] options = .ok [] := by
  induction options with
  | nil => rw [ofOptions]
  | cons form rest ih =>
    rw [List.all_cons, Bool.and_eq_true] at missing
    rw [ofOptions, if_pos (by rw [missing.1, Bool.true_or]), ih missing.2]

theorem changingIn?_of_missing {options : List Form}
    (missing : options.all Form.isMissing = true) : Form.changingIn? options = none := by
  induction options with
  | nil => rfl
  | cons form rest ih =>
    rw [List.all_cons, Bool.and_eq_true] at missing
    rw [Form.changingIn?, ih missing.2]
    have atom := missing.1
    unfold Form.isMissing at atom
    split at atom <;> first | rfl | cases atom

/-- A tuple of several missing values is described as a sequence of a union without options. -/
theorem ofForm_of_missing {scope : TypeScope} {head : Head} (isTuple : container? head = some .tuple)
    {arguments : List Form} (several : 2 ≤ arguments.length)
    (missing : arguments.all Form.isMissing = true) :
    ofForm world scope (.generic head arguments) = .ok (sequence .tuple (union [] true)) := by
  obtain _ | ⟨form, _ | ⟨second, rest⟩⟩ := arguments
  · simp at several
  · simp at several
  have apart : second.isEllipsis = false := by
    simp only [List.all_cons, Bool.and_eq_true] at missing
    have atom := missing.2.1
    unfold Form.isMissing at atom
    split at atom <;> first | rfl | cases atom
  have optional : (form :: second :: rest).any Form.isMissing = true := by
    rw [List.all_cons, Bool.and_eq_true] at missing
    rw [List.any_cons, missing.1, Bool.true_or]
  have role : LibraryClass.tuple.role = .sequence := by decide
  rw [ofForm, isTuple]
  simp only [role]
  rw [ofElements, if_pos rfl, apart, Bool.false_and, if_neg (by decide),
    changingIn?_of_missing missing]
  simp only
  rw [ofOptions_of_missing missing, optional]
  rfl

/-- Such a sequence cannot be written in place. -/
theorem blank_of_missing : (sequence .tuple (union [] true)).Blank :=
  .part (show union [] true ∈ (sequence .tuple (union [] true)).parts from List.mem_singleton_self _)
    (.empty rfl rfl)

/-! ## Faults of descriptions -/

/-- The fault is none of the mapping rules. -/
def IsProvided (fault : Fault) : Prop := ∀ subject reason, fault ≠ .unmappable subject reason

variable {scope : TypeScope}

theorem Reports.isProvided {used : List TypeVariable} {fault : Fault}
    (reports : Reports scope used fault) : IsProvided fault := by
  rintro subject reason rfl
  exact reports

/-- Describing a form fails as the provider does, never as the mapping rules do. -/
theorem provided_ofForm (form : Form) : Fails (ofForm world scope form) IsProvided :=
  (fails_ofForm form).mono fun _ => Reports.isProvided

/-- Loading members fails as the provider does, never as the mapping rules do. -/
theorem provided_members (loader : ClassLoader) : Fails (world.members loader) IsProvided := by
  obtain ⟨c, scope⟩ := loader
  simp only [World.members]
  split
  · exact fails_ok
  · refine Fails.bind ?_ fun hints => ?_
    · cases World.hints world _ with
      | error fault => exact fails_error.mpr fun _ _ same => by cases same
      | ok hints => exact fails_ok
    · refine Fails.bind ?_ fun scope => Fails.bind ?_ fun names => ?_
      · unfold World.memberScope
        split
        · exact fails_error.mpr fun _ _ same => by cases same
        · exact fails_foldlM fun entry _ scope => ite_fails fails_pure
            ((provided_ofForm entry.2).bind fun _ => fails_pure)
      · unfold World.memberNames
        split <;> first
          | exact fails_ok
          | exact fails_error.mpr fun _ _ same => by cases same
      · exact fails_mapM fun entry _ => (provided_ofForm entry.2).bind fun _ => fails_pure

theorem provided_hostMembers (host : Host ClassLoader) :
    Fails (host.members world.members) IsProvided := by
  rw [Host.members]
  split
  · exact fails_ok
  · exact provided_members _

end Description

namespace World

open Description

variable {world : World} {State : Type}

/-- The mapping rules refuse a type or a member of it: an empty union stands in place in the type
itself or, when it is an object whose members can be loaded, in the type of a member. -/
def Refused (world : World) (host : Host ClassLoader) : Prop :=
  if host.kind = .object then
    ∃ members, host.members world.members = .ok members ∧ ∃ member ∈ members, member.type.Blank
  else host.Blank

/-- Whatever is met behind a description can be mapped, with any options and without an override,
unless an empty union stands in place in it. An empty union stands there only if the annotation
that is described is hollow, or an annotation of a class of the world. -/
theorem mappable_of_meets (loaded : world.Loaded) {form : Form} (covered : form.Over world.Knows)
    {host : Host ClassLoader} (met : world.Meets form host) (mapper : Mapper ClassLoader State)
    (silent : mapper.override = .silent) (source : mapper.source = world.members) (s : State) :
    ((∃ subject reason, (outcome (mapper.reference host) s).1 = .error (.unmappable subject reason)) ↔
        host.Blank) ∧
      ((∃ subject reason, (outcome (mapper.mapType host) s).1 =
          .error (.unmappable subject reason)) ↔ world.Refused host) ∧
      (host.Blank ∨ world.Refused host → form.isHollow = true ∨ world.MentionsHollow) := by
  have described : ∀ {other : Host ClassLoader}, world.Meets form other →
      Described world (form.isHollow = true ∨ world.MentionsHollow) other :=
    fun met => met.described loaded.sound covered .inl .inr
  have members : ∀ {members : List (HostMember ClassLoader)},
      host.members world.members = .ok members → ∀ member ∈ members,
        Described world (form.isHollow = true ∨ world.MentionsHollow) member.type :=
    fun found member listed => described (.member met found listed)
  refine ⟨(Mapper.refuses_reference silent (described met).complete).unmappable_iff s, ?_, ?_⟩
  · rw [Refused]
    split_ifs with kind
    · cases found : host.members world.members with
      | error fault =>
        have found' : host.members mapper.source = .error fault := source ▸ found
        rw [Mapper.outcome_mapType_of_error silent kind found']
        refine iff_of_false ?_ (by simp)
        rintro ⟨subject, reason, same⟩
        have raised : fault = .unmappable subject reason := Except.error.inj same
        exact provided_hostMembers host fault found subject reason raised
      | ok listed =>
        have complete : ∀ member ∈ listed, member.type.Complete :=
          fun member inside => (members found member inside).complete
        have found' : host.members mapper.source = .ok listed := source ▸ found
        rw [(Mapper.refuses_mapType_object silent kind found' complete).unmappable_iff s]
        simp
    · exact (Mapper.refuses_mapType silent (described met).complete kind).unmappable_iff s
  · rintro (blank | refused)
    · exact (described met).empties_of_blank blank
    · rw [Refused] at refused
      split_ifs at refused with kind
      · obtain ⟨listed, found, member, inside, blank⟩ := refused
        exact (members found member inside).empties_of_blank blank
      · exact (described met).empties_of_blank refused

/-- The rules with their usual options and without an override. -/
def plainMapper (world : World) : Mapper ClassLoader (Builder ClassLoader) :=
  ⟨{}, .silent, world.members, Builder.services⟩

/-- A tuple of a text and a missing value can be mapped. -/
theorem mappable_of_meets_optional :
    let form := Form.generic (.library .tuple) [.atom (.library .text), .atom .none]
    let host := sequence .tuple ((primitive "builtins" "str").asNullable true)
    ofForm {} [] form = .ok host ∧
      ¬(∃ subject reason, (outcome ((plainMapper {}).reference host) {}).1 =
        .error (.unmappable subject reason)) ∧
      ¬∃ subject reason, (outcome ((plainMapper {}).mapType host) {}).1 =
        .error (.unmappable subject reason) := by
  intro form host
  have described : ofForm {} [] form = .ok host := by cbv
  have covered : form.Over (World.Knows {}) := by simp [form]
  have full : ¬(form.isHollow = true ∨ World.MentionsHollow {}) := by
    rintro (hollow | ⟨c, record, known, _⟩)
    · exact absurd hollow (by decide)
    · cases known
  obtain ⟨reference, mapped, hollow⟩ :=
    mappable_of_meets .start covered (.root described) (plainMapper {}) rfl rfl {}
  rw [reference, mapped]
  exact ⟨described, fun blank => full (hollow (.inl blank)), fun refused => full (hollow (.inr refused))⟩

/-- A tuple of two missing values is described, and refused. -/
theorem mappable_of_meets_pair :
    let form := Form.generic (.library .tuple) [.atom .none, .atom .none]
    let host := sequence .tuple (union [] true)
    ofForm {} [] form = .ok host ∧
      (∃ subject reason, (outcome ((plainMapper {}).reference host) {}).1 =
        .error (.unmappable subject reason)) ∧
      ∃ subject reason, (outcome ((plainMapper {}).mapType host) {}).1 =
        .error (.unmappable subject reason) := by
  intro form host
  have described : ofForm {} [] form = .ok host := ofForm_of_missing rfl (by decide) rfl
  have covered : form.Over (World.Knows {}) := by simp [form]
  have here : Described {} True host :=
    (Meets.root described).described World.sound_empty covered (fun _ => trivial) fun _ => trivial
  have reference := Mapper.refuses_reference (show (plainMapper {}).override = .silent from rfl)
    here.complete
  have mapped := Mapper.refuses_mapType (show (plainMapper {}).override = .silent from rfl)
    here.complete nofun
  exact ⟨described, (reference.unmappable_iff {}).mpr blank_of_missing,
    (mapped.unmappable_iff {}).mpr blank_of_missing⟩

end World

end TypeContracts
