import Mathlib.Data.List.Nodup
import TypeContracts.Proofs.Source.Origin

/-!
# The identity of a described type

The full name of an identity tells what a described type comes from: which library class, unions,
or which class of the contracts, as long as no two classes share a full name and no class has the
name of unions. The arguments of the identity tell the arguments, so that types with the same
identity agree in all but their own nullability, and load the same members
(`World.identity_sound`).

A class that takes the full name of unions is described under the identity of a union
(`World.identity_taken`).
-/

set_option autoImplicit false

namespace TypeContracts

/-! ## Identities -/

namespace Host

variable {Loader : Type}

theorem identity_eq (host : Host Loader) :
    host.identity = ⟨host.fullName, argumentIdentities host.arguments, false⟩ := by
  cases host
  rfl

/-- Arguments with the same identities are the same, when each is told by its identity as far as
its own nullability does not count. -/
theorem eq_of_argumentIdentities {first second : List (Host Loader)}
    (same : argumentIdentities first = argumentIdentities second)
    (told : ∀ a ∈ first, ∀ b ∈ second, a.identity = b.identity → b = a.asNullable b.nullable) :
    first = second := by
  induction first generalizing second with
  | nil =>
    cases second with
    | nil => rfl
    | cons b rest => cases same
  | cons a first ih =>
    cases second with
    | nil => cases same
    | cons b second =>
      rw [argumentIdentities, argumentIdentities, List.cons.injEq, identity_eq, identity_eq,
        Identity.mk.injEq] at same
      obtain ⟨⟨name, arguments, nullable⟩, rest⟩ := same
      have identity : a.identity = b.identity := by
        rw [identity_eq, identity_eq, Identity.mk.injEq]
        exact ⟨name, arguments, rfl⟩
      have equal := told a List.mem_cons_self b List.mem_cons_self identity
      rw [← nullable, asNullable_nullable] at equal
      rw [equal, ih rest fun a member b member' =>
        told a (List.mem_cons_of_mem _ member) b (List.mem_cons_of_mem _ member')]

end Host

/-- The classes of the world differ from each other and from those of the library in their full
names, and none has the full name of unions. -/
structure World.NamesApart (world : World) : Prop where
  classes : (world.classes.toList.map fun record => record.ref.fullName).Nodup
  library : ∀ record ∈ world.classes, ∀ c ∈ Description.described, record.ref.fullName ≠ c.fullName
  union : ∀ record ∈ world.classes, record.ref.fullName ≠ Description.Origin.union.fullName

namespace Description

variable {world : World} {empties : Prop}

/-- The full name tells where a type comes from. -/
theorem Origin.eq_of_fullName (apart : world.NamesApart) {origin origin' : Origin}
    (known : origin.Known world) (known' : origin'.Known world)
    (same : origin.fullName = origin'.fullName) : origin = origin' := by
  have libraries : ∀ c ∈ described, ∀ d ∈ described, c.fullName = d.fullName → c = d := by
    decide +kernel
  have unions : ∀ c ∈ described, c.fullName ≠ Origin.union.fullName := by decide +kernel
  have records : ∀ {c : ClassRef}, world.Knows c → ∃ record ∈ world.classes, record.ref = c := by
    rintro c ⟨record, found, same⟩
    exact ⟨record, World.mem_of_record? found, same⟩
  cases origin with
  | library c =>
    cases origin' with
    | library d => rw [libraries c known d known' same]
    | union => exact absurd same (unions c known)
    | contract d =>
      obtain ⟨record, member, rfl⟩ := records known'
      exact absurd same.symm (apart.library record member c known)
  | union =>
    cases origin' with
    | library d => exact absurd same.symm (unions d known')
    | union => rfl
    | contract d =>
      obtain ⟨record, member, rfl⟩ := records known'
      exact absurd same.symm (apart.union record member)
  | contract c =>
    obtain ⟨record, member, rfl⟩ := records known
    cases origin' with
    | library d => exact absurd same (apart.library record member d known')
    | union => exact absurd same (apart.union record member)
    | contract d =>
      obtain ⟨record', member', rfl⟩ := records known'
      rw [List.inj_on_of_nodup_map apart.classes (Array.mem_toList_iff.mpr member)
        (Array.mem_toList_iff.mpr member') same]

/-- Types of a world with the same identity differ in their own nullability at most. -/
theorem Described.eq_asNullable (apart : world.NamesApart) {a b : Host ClassLoader}
    (first : Described world empties a) (second : Described world empties b)
    (same : a.identity = b.identity) :
    b = a.asNullable b.nullable := by
  induction first generalizing b with
  | @of a origin known _ made each ih =>
    cases second with
    | of origin' known' _ made' each' =>
      rw [Host.identity_eq, Host.identity_eq, Identity.mk.injEq] at same
      have arguments : a.arguments = b.arguments :=
        Host.eq_of_argumentIdentities same.2.1 fun x member y member' equal =>
          ih x member (each' y member') equal
      have named : ∀ {host : Host ClassLoader} {origin : Origin},
          origin.host world host.arguments = host.asNullable false →
            origin.fullName = host.fullName := by
        intro host origin made
        rw [← Origin.fullName_host world origin host.arguments, made]
        rfl
      have origins : origin = origin' := Origin.eq_of_fullName apart known known'
        ((named made).trans (same.1.trans (named made').symm))
      have stripped : a.asNullable false = b.asNullable false := by
        rw [← made, ← made', origins, arguments]
      rw [← Host.asNullable_nullable b, ← Host.asNullable_asNullable b false b.nullable, ← stripped]
      rfl

end Description

namespace World

/-- A type is produced in the world when it is met behind the description of a form that mentions
classes of the world only. -/
def Produces (world : World) (host : Host ClassLoader) : Prop :=
  ∃ form : Form, form.Over world.Knows ∧ world.Meets form host

variable {world : World}

theorem Produces.described (sound : world.Sound) {host : Host ClassLoader}
    (produced : world.Produces host) : Description.Described world True host := by
  obtain ⟨form, covered, met⟩ := produced
  exact met.described sound covered (fun _ => trivial) fun _ => trivial

/-- The identity is a sound key: types that are produced with the same identity agree in all but
their own nullability, and loading their members fails alike or gives the same members. -/
theorem identity_sound (loaded : world.Loaded) (apart : world.NamesApart) {a b : Host ClassLoader}
    (first : world.Produces a) (second : world.Produces b) (same : a.identity = b.identity) :
    b = a.asNullable b.nullable ∧ b.members world.members = a.members world.members := by
  have equal := (first.described loaded.sound).eq_asNullable apart (second.described loaded.sound) same
  refine ⟨equal, ?_⟩
  rw [equal]
  rfl

/-! ## A class of two alternatives -/

/-- A module with a generic class of two type parameters, whose body assigns some names. -/
def alternatives (members : List (String × MemberValue)) : ModuleSource where
  name := "m"
  typeVariables := ["T", "U"]
  classes := [{ name := "Either"
                bases := [.subscript (.inSpace "typing" ["Generic"])
                  (.display .tuple [.named "T", .named "U"])]
                fields := [("left", .named "T")]
                members := members }]

/-- The world with the module alone. -/
def alternating (members : List (String × MemberValue)) : World :=
  ((Loading.enterAll [alternatives members]).outcome {}).2

/-- The class of the module, under a full name. -/
def either (space path : String) : ClassRef :=
  ⟨0, space, path, "Either", .plain, false, [⟨"T", 0⟩, ⟨"U", 1⟩]⟩

/-- A text or a number, as two options. -/
def textOrNumber : List Form := [.atom (.library .text), .atom (.library ⟨"builtins", "int"⟩)]

theorem loaded_alternating (members : List (String × MemberValue)) :
    (alternating members).Loaded :=
  .enter .start _

theorem over_textOrNumber (world : World) : Form.AllOver world.Knows textOrNumber := by
  simp [textOrNumber]

/-- The class applied to a text and a number mentions classes of the world only. -/
theorem over_either {world : World} {space path : String}
    (classes : world.classes.toList.map ClassRecord.ref = [either space path]) :
    (Form.generic (.contract (either space path)) textOrNumber).Over world.Knows := by
  obtain ⟨record, rest, listed, own, _⟩ := List.map_eq_cons_iff.mp classes
  have found : world.record? (either space path) = some record := by
    rw [World.record?, ← Array.getElem?_toList, listed]
    rfl
  rw [Form.Over]
  exact ⟨⟨record, found, own⟩, over_textOrNumber world⟩

/-- The description of the class applied to a text and a number. -/
theorem ofForm_either (world : World) (space path : String) :
    Description.ofForm world [] (.generic (.contract (either space path)) textOrNumber) =
      .ok (Description.object (either space path)
        [Description.primitive "builtins" "str", Description.primitive "builtins" "int"]) := by
  have text : LibraryClass.text.role = .primitive := by decide
  have number : (⟨"builtins", "int"⟩ : LibraryClass).role = .primitive := by decide
  simp [Description.ofForm, Description.container?, Description.parameters?, either, textOrNumber,
    Description.ofForms, Description.ofAtom, Description.ofLibrary, text, number]
  rfl

theorem ref_of_classes {world : World} {c : ClassRef}
    (classes : world.classes.toList.map ClassRecord.ref = [c]) :
    ∀ record ∈ world.classes, record.ref = c := by
  intro record member
  have listed : record.ref ∈ world.classes.toList.map ClassRecord.ref :=
    List.mem_map.mpr ⟨record, Array.mem_toList_iff.mpr member, rfl⟩
  rw [classes] at listed
  exact List.mem_singleton.mp listed

theorem nodup_of_classes {world : World} {c : ClassRef}
    (classes : world.classes.toList.map ClassRecord.ref = [c]) :
    (world.classes.toList.map fun record => record.ref.fullName).Nodup := by
  rw [show (fun record : ClassRecord => record.ref.fullName) =
    ClassRef.fullName ∘ ClassRecord.ref from rfl, ← List.map_map, classes]
  exact List.nodup_singleton _

set_option maxRecDepth 10000 in
/-- The class applied to the same arguments is described under one identity as itself and as a
type that may be missing. -/
theorem identity_sound_either :
    let applied := Form.generic (.contract (either "m" "Either")) textOrNumber
    let host := Description.object (either "m" "Either")
      [Description.primitive "builtins" "str", Description.primitive "builtins" "int"]
    Description.ofForm (alternating []) [] (.union false [applied, .atom .none]) =
        .ok (host.asNullable true) ∧
      host.asNullable true = host.asNullable (host.asNullable true).nullable ∧
      (host.asNullable true).members (alternating []).members =
        host.members (alternating []).members := by
  intro applied host
  have classes : (alternating []).classes.toList.map ClassRecord.ref = [either "m" "Either"] := by
    decide +kernel
  have each := ref_of_classes classes
  have apart : (alternating []).NamesApart :=
    ⟨nodup_of_classes classes, fun record member => each record member ▸ by decide +kernel,
      fun record member => each record member ▸ by decide +kernel⟩
  have covered : applied.Over (alternating []).Knows := over_either classes
  have optional : Description.ofForm (alternating []) [] (.union false [applied, .atom .none]) =
      .ok (host.asNullable true) := by
    rw [Description.ofForm, Description.ofOptions, if_neg (by decide), Description.ofOptions,
      if_pos (by rfl), Description.ofOptions, ofForm_either]
    rfl
  refine ⟨optional, identity_sound (loaded_alternating []) apart
    ⟨applied, covered, .root (ofForm_either _ _ _)⟩
    ⟨.union false [applied, .atom .none], ?_, .root optional⟩ rfl⟩
  rw [Form.Over]
  exact ⟨covered, trivial, trivial⟩

/-- The body of the class gives it the full name of unions. -/
def taking : List (String × MemberValue) :=
  [("__module__", .given (.text "typing")), ("__qualname__", .given (.text "Union"))]

set_option maxRecDepth 10000 in
/-- No two classes share a full name, but the class and a union of the same two types share their
identity. -/
theorem identity_taken :
    let text := Description.primitive "builtins" "str"
    let number := Description.primitive "builtins" "int"
    let object := Description.object (either "typing" "Union") [text, number]
    let union := Description.union [text, number] false
    (alternating taking).Loaded ∧
      ((alternating taking).classes.toList.map fun record => record.ref.fullName).Nodup ∧
      (∀ record ∈ (alternating taking).classes, ∀ c ∈ Description.described,
        record.ref.fullName ≠ c.fullName) ∧
      (alternating taking).Produces object ∧ (alternating taking).Produces union ∧
      object.identity = union.identity ∧ object.kind = .object ∧ union.kind = .union := by
  intro text number object union
  have classes : (alternating taking).classes.toList.map ClassRecord.ref =
      [either "typing" "Union"] := by decide +kernel
  have each := ref_of_classes classes
  have options : Description.ofForm (alternating taking) [] (.union false textOrNumber) =
      .ok union := by
    have isText : LibraryClass.text.role = .primitive := by decide
    have isNumber : (⟨"builtins", "int"⟩ : LibraryClass).role = .primitive := by decide
    rw [Description.ofForm, textOrNumber, Description.ofOptions, if_neg (by decide),
      Description.ofOptions, if_neg (by decide +kernel), Description.ofOptions, Description.ofForm,
      Description.ofForm, Description.ofAtom, Description.ofAtom, Description.ofLibrary,
      Description.ofLibrary, isText, isNumber]
    rfl
  exact ⟨loaded_alternating taking, nodup_of_classes classes,
    fun record member => each record member ▸ by decide +kernel,
    ⟨_, over_either classes, .root (ofForm_either _ _ _)⟩,
    ⟨.union false textOrNumber, over_textOrNumber _, .root options⟩, rfl, rfl, rfl⟩

end World

end TypeContracts
