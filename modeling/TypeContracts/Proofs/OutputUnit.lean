import TypeContracts.Proofs.Graph.Imports

/-!
# Additions to a unit

Declarations and imports are added to a unit one after another, in any order, and an addition that
is refused leaves the unit as it is (`OutputUnit.built`). An import is compared with every name of
the unit, a declaration with those of the declarations alone. So two declarations never share a
name, nor do two imports. A declaration and an import share one exactly if the declaration comes
behind an import of its name: the step is `OutputUnit.nodup_scope_attempt_iff`, and the run follows
the additions from the first to the last (`OutputUnit.scope_built`).
-/

set_option autoImplicit false

namespace TypeContracts.OutputUnit

/-- What is added to a unit by one call. -/
inductive Addition where
  | declaration (value : Declaration)
  | statement (value : Import)

/-- The name that an addition brings into the scope. -/
def Addition.name : Addition → String
  | .declaration value => value.name
  | .statement value => value.name

/-- The unit with one more declaration or import. -/
def add (unit : OutputUnit) : Addition → Except Fault OutputUnit
  | .declaration value => unit.addDeclaration value
  | .statement value => unit.addImport value

/-- The unit behind a call. One that fails leaves the unit as it is. -/
def attempt (unit : OutputUnit) (addition : Addition) : OutputUnit :=
  (unit.add addition).toOption.getD unit

/-- The unit behind several calls, which is empty before the first one. -/
def built (path : String) (additions : List Addition) : OutputUnit :=
  additions.foldl attempt { path := path }

/-! ## One addition -/

/-- An addition is refused: a declaration if its name is declared already, and an import if its
name is in the scope, unless it is the import itself. -/
def Refuses (unit : OutputUnit) : Addition → Prop
  | .declaration value => value.name ∈ unit.declarations.map Declaration.name
  | .statement value => unit.importsFrom value.target value.name = false ∧ value.name ∈ unit.scope

instance (unit : OutputUnit) : DecidablePred unit.Refuses
  | .declaration value =>
    inferInstanceAs (Decidable (value.name ∈ unit.declarations.map Declaration.name))
  | .statement value => inferInstanceAs
    (Decidable (unit.importsFrom value.target value.name = false ∧ value.name ∈ unit.scope))

/-- What an addition makes of a unit that does not refuse it. An import that is already there is
not added again. -/
def extend (unit : OutputUnit) : Addition → OutputUnit
  | .declaration value => { unit with declarations := unit.declarations ++ [value] }
  | .statement value =>
    if unit.importsFrom value.target value.name then unit
    else { unit with imports := unit.imports ++ [value] }

variable {unit : OutputUnit} {addition : Addition}

theorem declares_iff {name : String} :
    unit.declares name = true ↔ name ∈ unit.declarations.map Declaration.name := by
  simp [declares]

theorem importsName_or_declares_iff {name : String} :
    (unit.importsName name || unit.declares name) = true ↔ name ∈ unit.scope := by
  rw [Bool.or_eq_true, declares_iff, scope, List.mem_append, or_comm]
  simp [importsName]

/-- A refused addition fails, and the fault names what clashes and where. -/
theorem add_of_refuses (refused : unit.Refuses addition) :
    unit.add addition = .error (.nameConflict unit.path addition.name) := by
  cases addition with
  | declaration value => exact if_pos (declares_iff.mpr refused)
  | statement value =>
    obtain ⟨absent, taken⟩ := refused
    rw [add, addImport, absent, if_neg Bool.false_ne_true,
      if_pos (importsName_or_declares_iff.mpr taken)]
    rfl

/-- An import that is not refused is there already, or its name is new in the scope. -/
theorem extend_statement_cases {value : Import} (accepted : ¬ unit.Refuses (.statement value)) :
    unit.importsFrom value.target value.name = true ∧ unit.extend (.statement value) = unit ∨
      unit.importsFrom value.target value.name = false ∧ value.name ∉ unit.scope ∧
        unit.extend (.statement value) = { unit with imports := unit.imports ++ [value] } := by
  cases present : unit.importsFrom value.target value.name with
  | true => exact .inl ⟨rfl, if_pos present⟩
  | false =>
    refine .inr ⟨rfl, fun taken => accepted ⟨present, taken⟩, ?_⟩
    rw [extend, present, if_neg Bool.false_ne_true]

/-- Every other addition succeeds. -/
theorem add_of_not_refuses (accepted : ¬ unit.Refuses addition) :
    unit.add addition = .ok (unit.extend addition) := by
  cases addition with
  | declaration value => exact if_neg (declares_iff.not.mpr accepted)
  | statement value =>
    rcases extend_statement_cases accepted with ⟨present, same⟩ | ⟨absent, fresh, same⟩ <;> rw [same]
    · exact if_pos present
    · rw [add, addImport, absent, if_neg Bool.false_ne_true,
        if_neg (importsName_or_declares_iff.not.mpr fresh)]

theorem attempt_of_refuses (refused : unit.Refuses addition) : unit.attempt addition = unit := by
  rw [attempt, add_of_refuses refused]
  rfl

theorem attempt_of_not_refuses (accepted : ¬ unit.Refuses addition) :
    unit.attempt addition = unit.extend addition := by
  rw [attempt, add_of_not_refuses accepted]
  rfl

/-- A call leaves the unit as it is, or adds a declaration whose name is new among those of the
declarations, or adds an import whose name is new in the scope. -/
theorem attempt_cases (unit : OutputUnit) (addition : Addition) :
    unit.attempt addition = unit ∧ (∀ value, addition = .declaration value →
        value.name ∈ unit.declarations.map Declaration.name) ∨
      (∃ value, addition = .declaration value ∧
        value.name ∉ unit.declarations.map Declaration.name ∧
        unit.attempt addition = { unit with declarations := unit.declarations ++ [value] }) ∨
      ∃ value, addition = .statement value ∧ value.name ∉ unit.scope ∧
        unit.attempt addition = { unit with imports := unit.imports ++ [value] } := by
  by_cases refused : unit.Refuses addition
  · refine .inl ⟨attempt_of_refuses refused, ?_⟩
    rintro value rfl
    exact refused
  · rw [attempt_of_not_refuses refused]
    cases addition with
    | declaration value => exact .inr (.inl ⟨value, rfl, refused, rfl⟩)
    | statement value =>
      rcases extend_statement_cases refused with ⟨-, same⟩ | ⟨-, fresh, same⟩
      · exact .inl ⟨same, fun value other => nomatch other⟩
      · exact .inr (.inr ⟨value, rfl, fresh, same⟩)

@[simp] theorem path_attempt (unit : OutputUnit) (addition : Addition) :
    (unit.attempt addition).path = unit.path := by
  rcases attempt_cases unit addition with ⟨same, -⟩ | ⟨_, -, -, same⟩ | ⟨_, -, -, same⟩ <;> rw [same]

/-- The names of the declarations differ, and so do those of the imports. -/
structure Apart (unit : OutputUnit) : Prop where
  declared : (unit.declarations.map Declaration.name).Nodup
  imported : (unit.imports.map Import.name).Nodup

theorem Apart.attempt (apart : unit.Apart) (addition : Addition) :
    (unit.attempt addition).Apart := by
  rcases attempt_cases unit addition with ⟨same, -⟩ | ⟨value, -, fresh, same⟩ |
    ⟨value, -, fresh, same⟩ <;> rw [same]
  · exact apart
  · refine ⟨?_, apart.imported⟩
    rw [List.map_append, List.map_singleton, ← List.concat_eq_append]
    exact .concat fresh apart.declared
  · refine ⟨apart.declared, ?_⟩
    rw [List.map_append, List.map_singleton, ← List.concat_eq_append]
    exact .concat (fun taken => fresh (List.mem_append_right _ taken)) apart.imported

/-- A call keeps the names of the scope apart exactly if they are apart before and it does not
declare a name that is imported. -/
theorem nodup_scope_attempt_iff (unit : OutputUnit) (addition : Addition) :
    (unit.attempt addition).scope.Nodup ↔ unit.scope.Nodup ∧ ∀ value,
      addition = .declaration value → value.name ∉ unit.imports.map Import.name := by
  rcases attempt_cases unit addition with ⟨same, declared⟩ | ⟨value, rfl, fresh, same⟩ |
    ⟨value, rfl, fresh, same⟩ <;> rw [same]
  · refine ⟨fun apart => ⟨apart, ?_⟩, And.left⟩
    intro value here imported
    exact List.disjoint_of_nodup_append apart (declared value here) imported
  · have order : ((unit.declarations ++ [value]).map Declaration.name ++
        unit.imports.map Import.name).Perm (value.name :: unit.scope) := by
      rw [List.map_append, List.map_singleton, List.append_assoc, List.singleton_append]
      exact List.perm_middle
    have outside : value.name ∉ unit.scope ↔ value.name ∉ unit.imports.map Import.name := by
      rw [scope, List.mem_append, not_or, and_iff_right fresh]
    rw [scope, order.nodup_iff, List.nodup_cons, outside, and_comm]
    refine and_congr_right fun _ => ⟨?_, fun each => each value rfl⟩
    rintro free _ ⟨⟩
    exact free
  · have order : (unit.declarations.map Declaration.name ++
        (unit.imports ++ [value]).map Import.name).Perm (value.name :: unit.scope) := by
      rw [List.map_append, List.map_singleton, ← List.append_assoc]
      exact List.perm_append_singleton _ _
    rw [scope, order.nodup_iff, List.nodup_cons, and_iff_right fresh]
    refine (and_iff_left ?_).symm
    rintro _ ⟨⟩

/-! ## All additions -/

theorem built_concat (path : String) (earlier : List Addition) (addition : Addition) :
    built path (earlier ++ [addition]) = (built path earlier).attempt addition := by
  rw [built, List.foldl_append]
  rfl

@[simp] theorem path_built (path : String) (additions : List Addition) :
    (built path additions).path = path := by
  induction additions using List.reverseRecOn with
  | nil => rfl
  | append_singleton earlier addition ih => rw [built_concat, path_attempt, ih]

theorem apart_built (path : String) (additions : List Addition) : (built path additions).Apart := by
  induction additions using List.reverseRecOn with
  | nil => exact ⟨.nil, .nil⟩
  | append_singleton earlier addition ih =>
    rw [built_concat]
    exact ih.attempt addition

/-- The names of the scope are apart exactly if no declaration comes behind an import of its
name. -/
theorem nodup_scope_built_iff (path : String) (additions : List Addition) :
    (built path additions).scope.Nodup ↔ ∀ earlier value,
      earlier ++ [.declaration value] <+: additions →
        value.name ∉ (built path earlier).imports.map Import.name := by
  induction additions using List.reverseRecOn with
  | nil => simp [built, scope]
  | append_singleton additions addition ih =>
    rw [built_concat, nodup_scope_attempt_iff, ih]
    constructor
    · rintro ⟨before, last⟩ earlier value front
      rcases List.prefix_concat_iff.mp front with whole | shorter
      · obtain ⟨rfl, same⟩ := List.append_inj' whole rfl
        exact last value (List.cons.inj same).1.symm
      · exact before earlier value shorter
    · intro each
      refine ⟨fun earlier value front => ?_, ?_⟩
      · exact each earlier value (front.trans (List.prefix_append _ _))
      · rintro value rfl
        exact each additions value (List.prefix_refl _)

/-- Declarations and imports are added to an empty unit in any order. No two declarations have the
same name, and no two imports. A call fails if it would declare a name twice or import a name that
is in the scope; the fault names what clashes and where, and the unit stays as it is. Any other call
succeeds and adds what it is given, unless that is an import that is already there. All names of
the scope differ exactly if no declaration comes behind an import of its name. -/
theorem scope_built (path : String) (additions : List Addition) :
    ((built path additions).declarations.map Declaration.name).Nodup ∧
    ((built path additions).imports.map Import.name).Nodup ∧
    (∀ next, (built path additions).Refuses next →
      (built path additions).add next = .error (.nameConflict path next.name) ∧
        built path (additions ++ [next]) = built path additions) ∧
    (∀ next, ¬ (built path additions).Refuses next →
      (built path additions).add next = .ok ((built path additions).extend next) ∧
        built path (additions ++ [next]) = (built path additions).extend next) ∧
    ((built path additions).scope.Nodup ↔ ∀ earlier value,
      earlier ++ [.declaration value] <+: additions →
        value.name ∉ (built path earlier).imports.map Import.name) := by
  have apart := apart_built path additions
  refine ⟨apart.declared, apart.imported, fun next refused => ?_, fun next accepted => ?_,
    nodup_scope_built_iff path additions⟩
  · have failed := add_of_refuses refused
    rw [path_built] at failed
    exact ⟨failed, by rw [built_concat, attempt_of_refuses refused]⟩
  · exact ⟨add_of_not_refuses accepted, by rw [built_concat, attempt_of_not_refuses accepted]⟩

/-- A unit with a declaration and an import refuses an import under the name of the declaration. -/
theorem scope_built_declared :
    let user : Addition := .declaration (.interface { fullName := "a.User" } "User" [])
    let role : Addition := .statement (.fromUnit "Role" "a/Role" "a/User")
    let clash : Addition := .statement (.fromUnit "User" "b/User" "a/User")
    (built "a/User" [user, role]).add clash = .error (.nameConflict "a/User" "User") ∧
      built "a/User" [user, role, clash] = built "a/User" [user, role] := by
  intro user role clash
  have settled := scope_built "a/User" [user, role]
  have refused : (built "a/User" [user, role]).Refuses clash := by decide
  exact settled.2.2.1 clash refused

/-- A declaration behind an import of its name is accepted, and the name is in the scope twice. -/
theorem scope_built_imported :
    let role : Addition := .statement (.fromUnit "Role" "a/Role" "a/User")
    let declared : Declaration := .interface { fullName := "b.Role" } "Role" []
    (built "a/User" [role]).add (.declaration declared) =
        .ok (built "a/User" [role, .declaration declared]) ∧
      (built "a/User" [role, .declaration declared]).scope = ["Role", "Role"] := by
  exact ⟨rfl, rfl⟩

end TypeContracts.OutputUnit
