import Mathlib
import TypeContracts.Proofs.Source.Replacement

/-!
# The members of an instantiated class

A generic class that is applied to arguments is described with a loader that knows what its
parameters stand for. The scope in which its annotations are described knows that too, whatever
its bases add. So the type of a member is the type of its annotation with the arguments in the
places of the parameters (`ofForm_replace_member`), as far as replacing them changes no union in
a way that the scope cannot see.

Such a change happens: a parameter between the options of a union can be replaced by an option
that is there already, or by the missing value, and the new union has an option less
(`ofForm_replace_member_twice`).
-/

set_option autoImplicit false

namespace TypeContracts

namespace World

open Description

variable {world : World} {record : ClassRecord} {scope scope' : TypeScope}

/-- The scope with a parameter of a base bound to the description of its argument, unless it is
bound already. -/
def bindNew (world : World) (scope : TypeScope) (entry : TypeVariable × Form) :
    Except Fault TypeScope := do
  if (scope.lookup entry.1).isSome then return scope
  return scope ++ [(entry.1, ← ofForm world scope entry.2)]

theorem lookup_bindNew {entry : TypeVariable × Form}
    (extended : world.bindNew scope entry = .ok scope') {v : TypeVariable}
    {host : Host ClassLoader} (known : scope.lookup v = some host) :
    scope'.lookup v = some host := by
  unfold bindNew at extended
  split at extended
  · cases extended
    exact known
  · rcases described : ofForm world scope entry.2 with fault | argument <;>
      rw [described] at extended <;> cases extended
    rw [List.lookup_append, known, Option.some_or]

theorem lookup_foldlM_bindNew {entries : List (TypeVariable × Form)}
    (extended : entries.foldlM world.bindNew scope = .ok scope') {v : TypeVariable}
    {host : Host ClassLoader} (known : scope.lookup v = some host) :
    scope'.lookup v = some host := by
  induction entries generalizing scope with
  | nil =>
    cases extended
    exact known
  | cons entry rest ih =>
    rw [List.foldlM_cons] at extended
    rcases first : world.bindNew scope entry with fault | next <;> rw [first] at extended
    · cases extended
    · exact ih extended (lookup_bindNew first known)

/-- The scope of the members of a class binds the parameters of the bases one after another. -/
theorem memberScope_eq_ok_iff :
    world.memberScope record scope = .ok scope' ↔
      ∃ entries, world.baseArguments record = .ok entries ∧
        entries.foldlM world.bindNew scope = .ok scope' := by
  unfold memberScope
  rcases world.baseArguments record with sort | entries
  · simp [spoiled]
  · simp only [Except.ok.injEq, exists_eq_left']
    rfl

/-- What the bases add to a scope changes nothing of what is there. -/
theorem lookup_memberScope (extended : world.memberScope record scope = .ok scope')
    {v : TypeVariable} {host : Host ClassLoader} (known : scope.lookup v = some host) :
    scope'.lookup v = some host := by
  obtain ⟨entries, _, bound⟩ := memberScope_eq_ok_iff.mp extended
  exact lookup_foldlM_bindNew bound known

/-- The described members have the types of their annotations. -/
theorem describeMembers_sound {hints : Scope} {names : List String}
    {members : List (HostMember ClassLoader)}
    (described : world.describeMembers scope hints names = .ok members)
    {member : HostMember ClassLoader} (listed : member ∈ members) :
    ∃ hint, hints.find? member.name = some hint ∧
      ofForm world scope hint = .ok member.type := by
  obtain ⟨⟨name, hint⟩, visible, typed⟩ := Result.exists_of_mem_mapM described listed
  obtain ⟨name', _, found⟩ := List.mem_filterMap.mp visible
  split at found
  · cases found
  · obtain ⟨hint', known, same⟩ := Option.map_eq_some_iff.mp found
    cases same
    obtain ⟨host, described, same⟩ := Result.bind_eq_ok_iff.mp typed
    cases same
    exact ⟨hint, known, described⟩

/-- The members of a class are described in its scope with what the bases add. -/
theorem members_eq_ok_iff {c : ClassRef} {members : List (HostMember ClassLoader)}
    (known : world.record? c = some record) :
    world.members (.of c scope) = .ok members ↔
      ∃ hints scope' names, world.hints record = .ok hints ∧
        world.memberScope record scope = .ok scope' ∧
        world.memberNames record hints = .ok names ∧
        world.describeMembers scope' hints names = .ok members := by
  simp only [World.members, known, Result.bind_eq_ok_iff]
  rcases world.hints record with fault | hints
  · simp [Except.mapError]
  · simp [Except.mapError]

end World

namespace Description

variable {world : World}

/-- Arguments are described one by one. -/
theorem lookup_zip_of_ofForms {parameters : List TypeVariable} {arguments : List Form}
    {hosts : List (Host ClassLoader)} (described : ofForms world [] arguments = .ok hosts)
    (enough : parameters.length = arguments.length) {v : TypeVariable} (member : v ∈ parameters) :
    ∃ type host, (parameters.zip arguments).lookup v = some type ∧
      ofForm world [] type = .ok host ∧ (parameters.zip hosts).lookup v = some host := by
  induction parameters generalizing arguments hosts with
  | nil => cases member
  | cons parameter parameters ih =>
    cases arguments with
    | nil => cases enough
    | cons argument arguments =>
      rw [ofForms] at described
      obtain ⟨first, here, described⟩ := Result.bind_eq_ok_iff.mp described
      obtain ⟨others, behind, same⟩ := Result.bind_eq_ok_iff.mp described
      cases same
      by_cases own : v = parameter
      · exact ⟨argument, first, by simp [own], here, by simp [own]⟩
      · have later := (List.mem_cons.mp member).resolve_left own
        obtain ⟨type, host, known, described, met⟩ := ih behind (by simpa using enough) later
        have other : (v == parameter) = false := by simpa using own
        exact ⟨type, host, by simpa [List.lookup_cons, other] using known, described,
          by simpa [List.lookup_cons, other] using met⟩

/-- An applied class of the contracts is an object with its described arguments. -/
theorem ofForm_contract {scope : TypeScope} {c : ClassRef} {arguments : List Form}
    {host : Host ClassLoader}
    (described : ofForm world scope (.generic (.contract c) arguments) = .ok host) :
    c.parameters.length = arguments.length ∧
      ∃ hosts, ofForms world scope arguments = .ok hosts ∧ host = object c hosts := by
  rw [ofForm] at described
  simp only [container?, parameters?] at described
  split at described
  · cases described
  next found =>
    split at found <;> cases found
    split at described
    next enough =>
      obtain ⟨hosts, each, same⟩ := Result.bind_eq_ok_iff.mp described
      cases same
      exact ⟨enough, hosts, each, rfl⟩
    · cases described

/-- The argument for a parameter of a class that is applied to arguments. -/
def argumentOf (c : ClassRef) (arguments : List Form) (v : TypeVariable) : Option Form :=
  (c.parameters.zip arguments).lookup v

/-- The type of a member of an instantiated class is the type of its annotation with the
arguments in the places of the parameters, when replacing them changes no union in a way that
the scope cannot see. -/
theorem ofForm_replace_member {c : ClassRef} {record : ClassRecord} {arguments : List Form}
    {host : Host ClassLoader} {loader : ClassLoader} {hints : Scope}
    {members : List (HostMember ClassLoader)}
    (described : ofForm world [] (.generic (.contract c) arguments) = .ok host)
    (loads : host.loader = some loader) (loaded : world.members loader = .ok members)
    (known : world.record? c = some record) (annotated : world.hints record = .ok hints) :
    ∀ member ∈ members, ∃ hint, hints.find? member.name = some hint ∧
      ((∀ v ∈ hint.typeVariables, v ∈ c.parameters) →
        isSettled (argumentOf c arguments) hint = true →
          ∀ replaced, hint.replace (argumentOf c arguments) = .ok replaced →
            ofForm world [] replaced = .ok member.type) := by
  obtain ⟨enough, hosts, each, rfl⟩ := ofForm_contract described
  cases loads
  obtain ⟨hints', scope, names, same, extended, _, typed⟩ :=
    (World.members_eq_ok_iff known).mp loaded
  rw [annotated, Except.ok.injEq] at same
  subst same
  intro member listed
  obtain ⟨hint, written, here⟩ := World.describeMembers_sound typed listed
  refine ⟨hint, written, fun own settled replaced formed => ?_⟩
  have bound : ∀ v ∈ hint.typeVariables,
      Bound world scope (argumentOf c arguments) v := by
    intro v used
    obtain ⟨type, host, argument, described, met⟩ := lookup_zip_of_ofForms each enough (own v used)
    exact ⟨type, host, argument, described, World.lookup_memberScope extended met⟩
  have agree := agrees_replace hint bound settled replaced formed
  rw [Agrees, here] at agree
  cases closed : ofForm world [] replaced <;> rw [closed] at agree <;> cases agree
  rfl

/-- The parameter of a box. -/
def content : TypeVariable := ⟨"T", 0⟩

/-- A generic class with one parameter. -/
def box : ClassRef := ⟨0, "m", "Box", "Box", .plain, false, [content]⟩

/-- The form of a number. -/
def number : Form := .atom (.library (.builtin "int"))

/-- The class of boxes whose one field has a type. -/
def boxRecord (type : Form) : ClassRecord where
  ref := box
  bases := [.generic]
  lineage := [.contract 0, .generic, .library .object]
  storage := .library .object
  annotations := .fields [("item", type)]
  written := some (.ok [.generic (.special .generic) [.atom (.variable content)]])
  argued := some (.ok [])

/-- A module with the class of boxes. -/
def boxes (type : Form) : World where
  classes := #[boxRecord type]
  typeVariables := 1
  modules := [("m", { scope := [("T", .atom (.variable content)), ("Box", .atom (.contract box))],
                      isComplete := true })]

/-- The type of the field is its only hint. -/
theorem hints_boxes {type : Form}
    (read : ∀ (world : World) (names : Lookup), world.hint names type = .ok type)
    (plain : type.plain = .ok type) :
    (boxes type).hints (boxRecord type) = .ok [("item", type)] := by
  have records : (boxes type).records (boxRecord type).lineage = [boxRecord type] := rfl
  rw [World.hints, records]
  simp [World.ownHints, boxRecord, read, plain, Scope.assign, bind, Except.bind, pure, Except.pure]

/-- The annotation of a list or nothing. -/
def optionalList (element : Form) : Form :=
  .union false [.generic (.library (.builtin "list")) [element], .atom .noneType]

theorem hint_optionalList (world : World) (names : Lookup) (v : TypeVariable) :
    world.hint names (optionalList (.atom (.variable v))) =
      .ok (optionalList (.atom (.variable v))) := by
  unfold World.hint
  -- The texts that are being read play no role, for there are none.
  generalize world.read names World.readingDepth [] = read
  cbv

theorem plain_optionalList (v : TypeVariable) :
    (optionalList (.atom (.variable v))).plain = .ok (optionalList (.atom (.variable v))) := by
  cbv

/-- The boxes of lists or nothing. -/
def listBoxes : World := boxes (optionalList (.atom (.variable content)))

/-- The item of a box of numbers is a list of numbers or nothing. -/
theorem ofForm_replace_member_list :
    ∃ members,
      listBoxes.members (.of box [(content, primitive "builtins" "int")]) = .ok members ∧
        members.map HostMember.name = ["item"] ∧
        ∀ member ∈ members, ofForm listBoxes [] (optionalList number) = .ok member.type := by
  have hints := hints_boxes (hint_optionalList · · content) (plain_optionalList content)
  have loaded : listBoxes.members (.of box [(content, primitive "builtins" "int")]) =
      .ok [⟨"item", (sequence (.builtin "list") (primitive "builtins" "int")).asNullable true⟩] := by
    rw [World.members_eq_ok_iff (rfl : listBoxes.record? box = some (boxRecord _))]
    exact ⟨_, _, ["item"], hints, rfl, rfl, by cbv⟩
  have described : ofForm listBoxes [] (.generic (.contract box) [number]) =
      .ok (object box [primitive "builtins" "int"]) := by cbv
  refine ⟨_, loaded, rfl, fun member listed => ?_⟩
  obtain ⟨hint, written, same⟩ :=
    ofForm_replace_member described rfl loaded rfl hints member listed
  rw [List.mem_singleton] at listed
  subst listed
  cases written
  exact same (by decide) (by decide +kernel) _ (by cbv)

/-- The annotation of a number or something else. -/
def numberOr (other : Form) : Form := .union false [other, number]

/-- The boxes of numbers or something else. -/
def numberBoxes : World := boxes (numberOr (.atom (.variable content)))

/-- The item of a box of numbers is described as one of two numbers, where its annotation with a
number in the place of the parameter is that of a number. -/
theorem ofForm_replace_member_twice :
    ∃ item closed,
      ofForm numberBoxes [] (.generic (.contract box) [number]) =
          .ok (object box [primitive "builtins" "int"]) ∧
        numberBoxes.members (.of box [(content, primitive "builtins" "int")]) =
          .ok [⟨"item", item⟩] ∧
        (numberOr (.atom (.variable content))).replace (argumentOf box [number]) = .ok number ∧
        ofForm numberBoxes [] number = .ok closed ∧ closed.identity ≠ item.identity := by
  have read : ∀ (world : World) (names : Lookup),
      world.hint names (numberOr (.atom (.variable content))) =
        .ok (numberOr (.atom (.variable content))) := by
    intro world names
    unfold World.hint
    generalize world.read names World.readingDepth [] = read
    cbv
  refine ⟨union [primitive "builtins" "int", primitive "builtins" "int"] false,
    primitive "builtins" "int", by cbv, ?_, by cbv, by cbv, by decide⟩
  rw [World.members_eq_ok_iff (rfl : numberBoxes.record? box = some (boxRecord _))]
  exact ⟨_, _, ["item"], hints_boxes read (by cbv), rfl, rfl, by cbv⟩

end Description

end TypeContracts
