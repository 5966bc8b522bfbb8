import TypeContracts.Proofs.Result
import TypeContracts.Proofs.Source.Replacement

/-!
# What a description reads of its scope

A form is described in a scope of type variables, and only its own variables are looked up there.
So two scopes in which these stand for the same give the same description (`ofForm_congr`), and a
variable that is not bound is reported only if the form has it (`exists_of_unbound`).
-/

set_option autoImplicit false

namespace TypeContracts.Description

open Form Result

variable {world : World} {scope scope' : TypeScope}

/-! ## Scopes that agree -/

/-- The variables stand for the same in both scopes. -/
def Alike (scope scope' : TypeScope) (used : List TypeVariable) : Prop :=
  ∀ v ∈ used, scope.lookup v = scope'.lookup v

theorem alike_typeVariablesOf {forms : List Form} :
    Alike scope scope' (typeVariablesOf forms) ↔
      ∀ form ∈ forms, Alike scope scope' form.typeVariables := by
  simp only [Alike, mem_typeVariablesOf]
  exact ⟨fun all form member v used => all v ⟨form, member, used⟩,
    fun each v ⟨form, member, used⟩ => each form member v used⟩

theorem ofAtom_congr {a : Atom} (alike : Alike scope scope' (Form.atom a).typeVariables) :
    ofAtom world scope a = ofAtom world scope' a := by
  unfold ofAtom
  split
  next v => rw [alike v (by simp [typeVariables])]
  all_goals rfl

mutual

/-- A form is described alike in scopes in which its variables stand for the same. -/
theorem ofForm_congr : ∀ {form : Form}, Alike scope scope' form.typeVariables →
    ofForm world scope form = ofForm world scope' form
  | .atom a, alike => by
    rw [ofForm, ofForm]
    exact ofAtom_congr alike
  | .annotated type notes, alike => by
    rw [typeVariables] at alike
    rw [ofForm, ofForm, ofForm_congr alike]
  | .union barred options, alike => by
    rw [typeVariables, alike_typeVariablesOf] at alike
    rw [ofForm, ofForm, ofOptions_congr [] alike]
  | .initVariable type, _ => by rw [ofForm, ofForm]
  | .group grouping items, _ => by rw [ofForm, ofForm]
  | .generic head arguments, alike => by
    rw [typeVariables, alike_typeVariablesOf] at alike
    simp only [ofForm, ofElements_congr _ alike, ofPair_congr alike, ofForms_congr alike]

theorem ofForms_congr : ∀ {forms : List Form},
    (∀ form ∈ forms, Alike scope scope' form.typeVariables) →
      ofForms world scope forms = ofForms world scope' forms
  | [], _ => by rw [ofForms, ofForms]
  | form :: rest, alike => by
    rw [List.forall_mem_cons] at alike
    rw [ofForms, ofForms, ofForm_congr alike.1, ofForms_congr alike.2]

theorem ofOptions_congr (seen : List Form) : ∀ {forms : List Form},
    (∀ form ∈ forms, Alike scope scope' form.typeVariables) →
      ofOptions world scope seen forms = ofOptions world scope' seen forms
  | [], _ => by rw [ofOptions, ofOptions]
  | form :: rest, alike => by
    rw [List.forall_mem_cons] at alike
    rw [ofOptions, ofOptions, ofForm_congr alike.1, ofOptions_congr seen alike.2,
      ofOptions_congr (form :: seen) alike.2]

theorem ofElements_congr (c : LibraryClass) : ∀ {forms : List Form},
    (∀ form ∈ forms, Alike scope scope' form.typeVariables) →
      ofElements world scope c forms = ofElements world scope' c forms
  | [], _ => by rw [ofElements, ofElements]
  | [form], alike => by
    rw [List.forall_mem_cons] at alike
    rw [ofElements, ofElements, ofForm_congr alike.1]
  | form :: second :: rest, alike => by
    have first := (List.forall_mem_cons.mp alike).1
    rw [ofElements, ofElements, ofForm_congr first, ofOptions_congr [] alike]

theorem ofPair_congr : ∀ {forms : List Form},
    (∀ form ∈ forms, Alike scope scope' form.typeVariables) →
      ofPair world scope forms = ofPair world scope' forms
  | [key, value], alike => by
    rw [List.forall_mem_cons, List.forall_mem_cons] at alike
    rw [ofPair, ofPair, ofForm_congr alike.1, ofForm_congr alike.2.1]
  | [], _ | [_], _ | _ :: _ :: _ :: _, _ => by
    rw [ofPair, ofPair] <;> simp

end

/-! ## Faults -/

/-- The fault is one of the provider, and if it reports a variable without a binding, one of the
variables that are used has none. -/
def Reports (scope : TypeScope) (used : List TypeVariable) : Fault → Prop
  | .unmappable .. => False
  | .unresolved _ .unboundVariable => ∃ v ∈ used, scope.lookup v = none
  | _ => True

theorem Reports.mono {used more : List TypeVariable} (fewer : ∀ v ∈ used, v ∈ more) {fault : Fault}
    (reports : Reports scope used fault) : Reports scope more fault := by
  unfold Reports at reports ⊢
  split
  · exact reports
  · obtain ⟨v, member, unbound⟩ := reports
    exact ⟨v, fewer v member, unbound⟩
  · trivial

theorem fails_ofClass (used : List TypeVariable) (c : ClassRef) :
    Fails (ofClass world c) (Reports scope used) := by
  unfold ofClass
  split
  · exact fails_error.mpr trivial
  · split
    · exact fails_ok
    · refine ite_fails (fails_error.mpr trivial) ?_
      split
      · exact fails_error.mpr trivial
      · exact fails_ok
      · exact fails_error.mpr trivial

theorem fails_ofAtom (a : Atom) :
    Fails (ofAtom world scope a) (Reports scope (Form.atom a).typeVariables) := by
  unfold ofAtom
  split
  case h_1 v =>
    split
    · exact fails_ok
    next unbound => exact fails_error.mpr ⟨v, by simp [typeVariables], unbound⟩
  case h_6 c =>
    unfold ofLibrary
    split <;> first | exact fails_ok | exact fails_error.mpr trivial
  case h_7 c => exact fails_ofClass _ c
  all_goals first
    | exact fails_ok
    | exact fails_error.mpr trivial
    | split <;> first | exact fails_ok | exact fails_error.mpr trivial

/-- What is reported of a form is reported of the forms that it is among. -/
theorem Reports.among {form : Form} {forms : List Form} (member : form ∈ forms) {fault : Fault}
    (reports : Reports scope form.typeVariables fault) :
    Reports scope (typeVariablesOf forms) fault :=
  reports.mono fun _ used => mem_typeVariablesOf.mpr ⟨form, member, used⟩

/-- What is reported of the later forms is reported of all. -/
theorem Reports.behind {form : Form} {rest : List Form} {fault : Fault}
    (reports : Reports scope (typeVariablesOf rest) fault) :
    Reports scope (typeVariablesOf (form :: rest)) fault :=
  reports.mono fun _ used => by
    obtain ⟨later, member, used⟩ := mem_typeVariablesOf.mp used
    exact mem_typeVariablesOf.mpr ⟨later, List.mem_cons_of_mem _ member, used⟩

mutual

/-- Describing a form fails as the provider does, and misses only bindings of its variables. -/
theorem fails_ofForm : ∀ form : Form,
    Fails (ofForm world scope form) (Reports scope form.typeVariables)
  | .atom a => by
    rw [ofForm]
    exact fails_ofAtom a
  | .annotated type notes => by
    rw [ofForm, typeVariables]
    exact fails_ofForm type
  | .union barred options => by
    rw [ofForm, typeVariables]
    exact (fails_ofOptions [] options).bind fun _ => fails_pure
  | .initVariable type => by
    rw [ofForm]
    exact fails_error.mpr trivial
  | .group grouping items => by
    rw [ofForm]
    exact fails_error.mpr trivial
  | .generic head arguments => by
    rw [ofForm, typeVariables]
    split
    next c _ =>
      split
      · exact (fails_ofElements c arguments).bind fun _ => fails_pure
      · refine (fails_ofPair arguments).bind fun pair => ?_
        split <;> exact fails_pure
      · exact fails_error.mpr trivial
    next =>
      split
      · exact fails_error.mpr trivial
      · exact ite_fails ((fails_ofForms arguments).bind fun _ => fails_pure)
          (fails_error.mpr trivial)

theorem fails_ofForms : ∀ forms : List Form,
    Fails (ofForms world scope forms) (Reports scope (typeVariablesOf forms))
  | [] => by
    rw [ofForms]
    exact fails_ok
  | form :: rest => by
    rw [ofForms]
    exact ((fails_ofForm form).mono fun _ => .among List.mem_cons_self).bind fun _ =>
      ((fails_ofForms rest).mono fun _ => .behind).bind fun _ => fails_pure

theorem fails_ofOptions (seen : List Form) : ∀ forms : List Form,
    Fails (ofOptions world scope seen forms) (Reports scope (typeVariablesOf forms))
  | [] => by
    rw [ofOptions]
    exact fails_ok
  | form :: rest => by
    rw [ofOptions]
    exact ite_fails ((fails_ofOptions seen rest).mono fun _ => .behind)
      (((fails_ofForm form).mono fun _ => .among List.mem_cons_self).bind fun _ =>
        ((fails_ofOptions (form :: seen) rest).mono fun _ => .behind).bind fun _ => fails_pure)

theorem fails_ofElements (c : LibraryClass) : ∀ forms : List Form,
    Fails (ofElements world scope c forms) (Reports scope (typeVariablesOf forms))
  | [] => by
    rw [ofElements]
    exact fails_ok
  | [form] => by
    rw [ofElements]
    exact (fails_ofForm form).mono fun _ => .among List.mem_cons_self
  | form :: second :: rest => by
    have first : Fails (ofForm world scope form)
        (Reports scope (typeVariablesOf (form :: second :: rest))) :=
      (fails_ofForm form).mono fun _ => .among List.mem_cons_self
    rw [ofElements]
    refine ite_fails (ite_fails first ?_) first
    split
    · exact fails_error.mpr trivial
    · exact (fails_ofOptions [] _).bind fun _ => fails_pure

theorem fails_ofPair : ∀ forms : List Form,
    Fails (ofPair world scope forms) (Reports scope (typeVariablesOf forms))
  | [key, value] => by
    rw [ofPair]
    refine ((fails_ofForm key).mono fun _ => .among List.mem_cons_self).bind fun _ => ?_
    exact ((fails_ofForm value).mono fun _ =>
      .among (List.mem_cons_of_mem _ List.mem_cons_self)).bind fun _ => fails_pure
  | [] | [_] | _ :: _ :: _ :: _ => by
    rw [ofPair] <;> simp

end

end TypeContracts.Description
