import Mathlib.Data.List.Forall2
import TypeContracts.Proofs.Host.Parts
import TypeContracts.Proofs.Result
import TypeContracts.Proofs.Source.Distinct
import TypeContracts.Source.Description

/-!
# Replacing variables and describing

A member of a generic class is described with the variables of its annotation bound to the
descriptions of the arguments. The same type can be written without variables: each variable
of the annotation is replaced by its argument, and unions are formed anew. The two ways agree
as long as forming the unions anew changes nothing that the scope cannot see: the options of a
union have to stay apart, and none of them may become missing or become a union itself. A union
of one option and the missing value is less delicate, for the option may become a union there
(`Description.isSettled`).

The agreement goes through the annotation. A union of options that stay apart keeps them in
their places; of a union with one option, only the options that are present count, and these
are the options of the argument.
-/

set_option autoImplicit false

namespace TypeContracts

namespace Form

variable {forms : List Form}

/-- The variables of several forms are those of each. -/
theorem mem_typeVariablesOf {v : TypeVariable} :
    v ∈ typeVariablesOf forms ↔ ∃ form ∈ forms, v ∈ form.typeVariables := by
  induction forms with
  | nil => simp [typeVariablesOf]
  | cons form rest ih => simp [typeVariablesOf, Distinct.mem_foldl_add, ih]

/-- The same forms are missing alike. -/
theorem isMissing_of_same (f g : Form) (equal : f.same g = true) :
    f.isMissing = g.isMissing := by
  cases f with
  | atom a =>
    cases g with
    | atom b =>
      rw [same] at equal
      cases a <;> cases b <;> first | rfl | cases equal
    | _ => simp [same] at equal
  | _ => cases g <;> first | rfl | simp [same] at equal

/-- The form is a union. -/
def isUnion : Form → Bool
  | .union .. => true
  | _ => false

theorem options_of_isMissing {form : Form} (missing : form.isMissing = true) :
    form.options = [form] := by
  cases form <;> first | rfl | cases missing

theorem options_of_isUnion {form : Form} (plain : form.isUnion = false) :
    form.options = [form] := by
  cases form <;> first | rfl | cases plain

end Form

namespace Description

open Form Result

/-! ## Replacements that stay apart -/

/-- Forms and those that replace them are missing alike, and alike the same as earlier ones. -/
def toldAlike (forms replaced : List Form) : Bool :=
  decide (forms.map isMissing = replaced.map isMissing) &&
    decide ((forms.zip replaced).Pairwise fun earlier later =>
      later.1.same earlier.1 = later.2.same earlier.2)

/-- The replaced options of a union are options of the new union, in their places. -/
def keepsPlaces (options replaced : List Form) : Bool :=
  toldAlike options replaced && replaced.all (fun form => !form.isUnion) &&
    decide ((Distinct.listBy same replaced).length = replaced.length) &&
    options.any fun form => !form.isMissing

/-- What replaces the one option of a union beside the missing value. -/
def besideMissing? : List Form → List Form → Option Form
  | [first, second], [replaced, replaced'] =>
    match first.isMissing, second.isMissing with
    | false, true => some replaced
    | true, false => some replaced'
    | _, _ => none
  | _, _ => none

/-- The options of a form differ, and one of them is present. -/
def isPresent (form : Form) : Bool :=
  decide ((Distinct.listBy same form.options).length = form.options.length) &&
    form.options.any fun option => !option.isMissing

/-- A union means the same before and after the new union is formed of its replaced options. -/
def keepsOptions (options replaced : List Form) : Bool :=
  keepsPlaces options replaced || (besideMissing? options replaced).any isPresent

/-- The elements of a tuple mean the same before and after they are replaced. Only several
elements are compared with each other. -/
def keepsElements (arguments replaced : List Form) : Bool :=
  match arguments with
  | _ :: second :: rest =>
    decide (arguments.map isEllipsis = replaced.map isEllipsis) &&
      ((second.isEllipsis && rest.isEmpty) ||
        (toldAlike arguments replaced &&
          decide (changingIn? arguments = changingIn? replaced)))
  | _ => true

mutual

/-- Replacing the variables of a form changes no union in a way that its scope cannot see. -/
def isSettled (types : TypeVariable → Option Form) : Form → Bool
  | .generic head arguments =>
    areSettled types arguments &&
      match container? head, replaceAll types arguments with
      | some c, .ok replaced => c != .tuple || keepsElements arguments replaced
      | _, _ => true
  | .union _ options =>
    areSettled types options &&
      match replaceAll types options with
      | .ok replaced => keepsOptions options replaced
      | .error _ => true
  | .annotated type _ => isSettled types type
  | _ => true

/-- The forms are settled, each of them. -/
def areSettled (types : TypeVariable → Option Form) : List Form → Bool
  | [] => true
  | form :: rest => isSettled types form && areSettled types rest

end

/-! ## Agreement -/

section

variable {world : World} {scope : TypeScope}

/-- A form in a scope and a form without variables describe the same type, or neither of them
describes one. -/
def Agrees (world : World) (scope : TypeScope) (form closed : Form) : Prop :=
  (ofForm world scope form).toOption = (ofForm world [] closed).toOption

theorem ofForms_toOption {forms closed : List Form}
    (agree : List.Forall₂ (Agrees world scope) forms closed) :
    (ofForms world scope forms).toOption = (ofForms world [] closed).toOption := by
  induction agree with
  | nil => simp only [ofForms]
  | cons first _ ih => simp only [ofForms, toOption_bind, ih, show _ = _ from first]

theorem ofPair_toOption {forms closed : List Form}
    (agree : List.Forall₂ (Agrees world scope) forms closed) :
    (ofPair world scope forms).toOption = (ofPair world [] closed).toOption := by
  cases agree with
  | nil => simp only [ofPair]
  | cons first others =>
    cases others with
    | nil => simp only [ofPair]
    | cons second others =>
      cases others with
      | nil => simp only [ofPair, toOption_bind, show _ = _ from first, show _ = _ from second]
      | cons _ _ => simp only [ofPair]

/-- Options that are told alike agree as options. -/
theorem ofOptions_toOption {forms closed : List Form}
    (agree : List.Forall₂ (Agrees world scope) forms closed)
    (alike : toldAlike forms closed = true) :
    (ofOptions world scope [] forms).toOption = (ofOptions world [] [] closed).toOption := by
  -- The induction keeps what was met so far, pair by pair.
  have step : ∀ {forms closed : List Form}, List.Forall₂ (Agrees world scope) forms closed →
      forms.map isMissing = closed.map isMissing → ∀ known : List (Form × Form),
      ((forms.zip closed).Pairwise fun earlier later =>
        later.1.same earlier.1 = later.2.same earlier.2) →
      (∀ pair ∈ forms.zip closed, ∀ earlier ∈ known,
        pair.1.same earlier.1 = pair.2.same earlier.2) →
      (ofOptions world scope (known.map Prod.fst) forms).toOption =
        (ofOptions world [] (known.map Prod.snd) closed).toOption := by
    intro forms closed agree
    induction agree with
    | nil => simp only [ofOptions, implies_true]
    | @cons form other forms closed first _ ih =>
      intro missing known apart met
      rw [List.zip_cons_cons, List.pairwise_cons] at apart
      rw [List.zip_cons_cons, List.forall_mem_cons] at met
      rw [List.map_cons, List.map_cons, List.cons.injEq] at missing
      have seen : (known.map Prod.fst).any form.same = (known.map Prod.snd).any other.same := by
        rw [List.any_map, List.any_map, Bool.eq_iff_iff, List.any_eq_true, List.any_eq_true]
        exact exists_congr fun earlier => and_congr_right fun member =>
          iff_of_eq (congrArg (· = true) (met.1 earlier member))
      rw [ofOptions, ofOptions, missing.1, seen]
      split
      · exact ih missing.2 known apart.2 met.2
      · have later := ih missing.2 ((form, other) :: known) apart.2 fun pair member =>
          List.forall_mem_cons.mpr ⟨apart.1 pair member, met.2 pair member⟩
        simp only [List.map_cons] at later
        simp only [toOption_bind, later, show _ = _ from first]
  rw [toldAlike, Bool.and_eq_true, decide_eq_true_eq, decide_eq_true_eq] at alike
  exact step agree alike.1 [] alike.2 (by simp)

/-- The union of options as they are described. -/
def asUnion (world : World) (scope : TypeScope) (options : List Form) : Description := do
  return union (← ofOptions world scope [] options) (options.any isMissing)

theorem ofForm_union (barred : Bool) (options : List Form) :
    ofForm world scope (.union barred options) = asUnion world scope options := by
  rw [ofForm, asUnion]

/-- Options that are told alike agree as unions. -/
theorem asUnion_toOption {forms closed : List Form}
    (agree : List.Forall₂ (Agrees world scope) forms closed)
    (alike : toldAlike forms closed = true) :
    (asUnion world scope forms).toOption = (asUnion world [] closed).toOption := by
  have missing : forms.any isMissing = closed.any isMissing := by
    rw [toldAlike, Bool.and_eq_true, decide_eq_true_eq] at alike
    simpa only [List.any_map, Function.id_comp] using congrArg (List.any · id) alike.1
  simp only [asUnion, toOption_bind, ofOptions_toOption agree alike, missing]

/-- Elements that keep their meaning agree as elements. -/
theorem ofElements_toOption (c : LibraryClass) {forms closed : List Form}
    (agree : List.Forall₂ (Agrees world scope) forms closed)
    (kept : c != .tuple || keepsElements forms closed) :
    (ofElements world scope c forms).toOption = (ofElements world [] c closed).toOption := by
  cases agree with
  | nil => simp only [ofElements]
  | @cons form other _ _ first others =>
    cases others with
    | nil => simpa only [ofElements, Agrees] using first
    | @cons second second' rest rest' next others =>
      rw [ofElements, ofElements]
      by_cases tuple : c = .tuple
      · rw [if_pos tuple, if_pos tuple]
        have whole := List.Forall₂.cons first (.cons next others)
        simp only [tuple, bne_self_eq_false, Bool.false_or, keepsElements, Bool.or_eq_true,
          Bool.and_eq_true, decide_eq_true_eq] at kept
        obtain ⟨open', kept⟩ := kept
        have ellipsis : second.isEllipsis = second'.isEllipsis :=
          (List.cons.inj (List.cons.inj open').2).1
        have short : rest.isEmpty = rest'.isEmpty := by cases others <;> rfl
        rw [← ellipsis, ← short]
        split
        · exact first
        next several =>
          obtain ⟨alike, changing⟩ := kept.resolve_left (by simpa using several)
          rw [changing]
          split
          · rfl
          · exact asUnion_toOption whole alike
      · rw [if_neg tuple, if_neg tuple]
        exact first

/-! ## Unions -/

/-- Options that are missing do not count. -/
theorem ofOptions_filter (seen options : List Form) :
    ofOptions world scope seen (options.filter fun option => !option.isMissing) =
      ofOptions world scope seen options := by
  induction options generalizing seen with
  | nil => rfl
  | cons option rest ih =>
    rw [List.filter_cons, ofOptions]
    by_cases missing : option.isMissing = true
    · simp [missing, ih]
    · simp only [missing, Bool.not_false, if_true, Bool.false_or, ofOptions]
      split <;> simp only [ih]

theorem union_asNullable (options : List (Host ClassLoader)) (nullable : Bool) :
    (union options nullable).asNullable true = union options true := by
  rcases options with _ | ⟨option, _ | ⟨next, rest⟩⟩ <;> try rfl
  cases nullable <;> rfl

/-- A union that is formed of forms is described by their distinct options, unless all that is
left is the missing value. -/
theorem ofForm_unionOf {barred : Bool} {forms : List Form} {form : Form}
    (formed : unionOf barred forms = .ok form)
    (present : (forms.flatMap options).any (fun option => !option.isMissing) = true) :
    ofForm world scope form =
      asUnion world scope (Distinct.listBy same (forms.flatMap options)) := by
  have alike : ∀ a b : Form, a.same b = true → (!a.isMissing) = !b.isMissing :=
    fun a b equal => congrArg not (isMissing_of_same a b equal)
  rw [← Distinct.any_listBy alike] at present
  unfold unionOf at formed
  simp only at formed
  split at formed
  · cases formed
  · split at formed
    next option single =>
      cases formed
      rw [single] at present ⊢
      have here : form.isMissing = false := by simpa using present
      simp only [asUnion, ofOptions, here, List.any_nil, Bool.or_self]
      cases ofForm world scope form <;> simp [here, union, bind, Except.bind, pure, Except.pure]
    next =>
      cases formed
      exact ofForm_union _ _

/-- A nullable form is described by its options and the missing value. -/
theorem map_asNullable_ofForm {form : Form} (present : isPresent form = true) :
    (ofForm world scope form).map (·.asNullable true) =
      (do return union (← ofOptions world scope [] form.options) true) := by
  rw [isPresent, Bool.and_eq_true] at present
  by_cases several : form.isUnion = true
  · cases form with
    | union barred options =>
      rw [ofForm_union, asUnion, Form.options]
      cases ofOptions world scope [] options with
      | error fault => rfl
      | ok hosts => exact congrArg Except.ok (union_asNullable hosts _)
    | _ => cases several
  · rw [Bool.not_eq_true] at several
    rw [options_of_isUnion several] at present ⊢
    have here : form.isMissing = false := by simpa using present.2
    simp only [ofOptions, here, List.any_nil, Bool.or_self]
    cases ofForm world scope form <;> rfl

/-- A union whose other options are missing is the nullable option. -/
theorem ofForm_union_beside {barred : Bool} {options : List Form} {option : Form}
    (kept : options.filter (fun option => !option.isMissing) = [option])
    (missing : options.any isMissing = true) :
    ofForm world scope (.union barred options) =
      (ofForm world scope option).map (·.asNullable true) := by
  have here : option.isMissing = false := by
    have member : option ∈ options.filter fun option => !option.isMissing := by
      rw [kept]
      exact List.mem_singleton_self option
    simpa using (List.mem_filter.mp member).2
  rw [ofForm_union, asUnion, missing, ← ofOptions_filter, kept]
  simp only [ofOptions, here, List.any_nil, Bool.or_self]
  cases ofForm world scope option <;> rfl

/-- A union that is formed of a form and the missing value is the nullable form. -/
theorem ofForm_unionOf_beside {barred : Bool} {forms : List Form} {form beside : Form}
    (formed : unionOf barred forms = .ok form) (present : isPresent beside = true)
    (kept : (forms.flatMap options).filter (fun option => !option.isMissing) =
      beside.options.filter fun option => !option.isMissing)
    (missing : (forms.flatMap options).any isMissing = true) :
    ofForm world scope form = (ofForm world scope beside).map (·.asNullable true) := by
  have alike : ∀ a b : Form, a.same b = true → (!a.isMissing) = !b.isMissing :=
    fun a b equal => congrArg not (isMissing_of_same a b equal)
  rw [map_asNullable_ofForm present]
  rw [isPresent, Bool.and_eq_true, decide_eq_true_eq] at present
  have any : (forms.flatMap options).any (fun option => !option.isMissing) = true := by
    obtain ⟨option, member, here⟩ := List.any_eq_true.mp present.2
    have inside : option ∈ beside.options.filter fun option => !option.isMissing :=
      List.mem_filter.mpr ⟨member, here⟩
    rw [← kept] at inside
    exact List.any_eq_true.mpr ⟨option, (List.mem_filter.mp inside).1, here⟩
  rw [ofForm_unionOf formed any, asUnion, Distinct.any_listBy isMissing_of_same,
    missing, ← ofOptions_filter, Distinct.filter_listBy alike, kept,
    ← Distinct.filter_listBy alike, Distinct.listBy_eq_of_length present.1, ofOptions_filter]

/-- A union agrees with the union that is formed of options in the same places. -/
theorem agrees_unionOf_places {barred barred' : Bool} {options replaced : List Form} {form : Form}
    (agree : List.Forall₂ (Agrees world scope) options replaced)
    (kept : keepsPlaces options replaced = true) (formed : unionOf barred' replaced = .ok form) :
    Agrees world scope (.union barred options) form := by
  simp only [keepsPlaces, Bool.and_eq_true, List.all_eq_true, Bool.not_eq_true',
    decide_eq_true_eq] at kept
  obtain ⟨⟨⟨alike, plain⟩, whole⟩, present⟩ := kept
  have flat : replaced.flatMap Form.options = replaced := by
    rw [List.flatMap_congr fun form member => options_of_isUnion (plain form member)]
    exact List.flatMap_singleton' replaced
  have present' : (replaced.flatMap Form.options).any (fun option => !option.isMissing) = true := by
    rw [toldAlike, Bool.and_eq_true, decide_eq_true_eq] at alike
    rw [flat, ← present]
    simpa only [List.any_map, Function.comp_def] using
      congrArg (List.any · not) alike.1.symm
  rw [Agrees, ofForm_union, ofForm_unionOf formed present', flat,
    Distinct.listBy_eq_of_length whole]
  exact asUnion_toOption agree alike

/-- What replaces a missing form is the same form. -/
theorem replace_of_isMissing {types : TypeVariable → Option Form} {form replaced : Form}
    (missing : form.isMissing = true) (formed : form.replace types = .ok replaced) :
    replaced = form := by
  cases form with
  | atom a => cases a <;> first | exact (Except.ok.inj formed).symm | cases missing
  | _ => cases missing

/-- A union of one option and the missing value agrees with the union that is formed anew. -/
theorem agrees_unionOf_beside {types : TypeVariable → Option Form} {barred barred' : Bool}
    {options replaced : List Form} {form beside : Form}
    (agree : List.Forall₂ (Agrees world scope) options replaced)
    (each : List.Forall₂ (fun form replaced => form.replace types = .ok replaced) options replaced)
    (found : besideMissing? options replaced = some beside) (present : isPresent beside = true)
    (formed : unionOf barred' replaced = .ok form) :
    Agrees world scope (.union barred options) form := by
  unfold besideMissing? at found
  split at found
  next first second first' second' =>
    rw [List.forall₂_cons, List.forall₂_cons] at agree each
    split at found
    next here missing =>
      cases found
      obtain rfl := replace_of_isMissing missing each.2.1
      have left : [first, second'].filter (fun option => !option.isMissing) = [first] := by
        simp [here, missing]
      rw [Agrees, ofForm_union_beside left (by simp [missing]), ofForm_unionOf_beside formed present
        (by simp [options_of_isMissing missing, missing]) (by simp [options_of_isMissing missing,
          missing])]
      exact toOption_map_congr agree.1
    next missing here =>
      cases found
      obtain rfl := replace_of_isMissing missing each.1
      have left : [first', second].filter (fun option => !option.isMissing) = [second] := by
        simp [here, missing]
      rw [Agrees, ofForm_union_beside left (by simp [missing]), ofForm_unionOf_beside formed present
        (by simp [options_of_isMissing missing, missing]) (by simp [options_of_isMissing missing,
          missing])]
      exact toOption_map_congr agree.2.1
    next => cases found
  next => cases found

/-! ## The annotation of a member -/

/-- A form in the place of a type is what it is converted to. -/
theorem converted_of_asType {place : Place} {rule : String} {form type : Form}
    (typed : form.asType place rule = .ok type) : form.converted = .ok type := by
  rw [asType] at typed
  obtain ⟨value, converted, typed⟩ := bind_eq_ok_iff.mp typed
  rw [converted]
  split at typed <;> (repeat' split at typed) <;> cases typed <;> rfl

/-- What is described is described alike where a type is expected. -/
theorem ofForm_asType {place : Place} {rule : String} {form type : Form} {host : Host ClassLoader}
    (described : ofForm world scope form = .ok host) (typed : form.asType place rule = .ok type) :
    ofForm world scope type = .ok host := by
  have converted := converted_of_asType typed
  unfold Form.converted at converted
  split at converted
  · cases converted
    rwa [ofForm] at described ⊢
  · rw [ofForm] at described
    cases described
  · rw [ofForm] at described
    cases described
  · cases converted
    exact described

/-- Applied heads agree when their arguments do. -/
theorem agrees_generic {head : Head} {arguments closed : List Form}
    (agree : List.Forall₂ (Agrees world scope) arguments closed)
    (kept : ∀ c, container? head = some c → (c != .tuple || keepsElements arguments closed) = true) :
    Agrees world scope (.generic head arguments) (.generic head closed) := by
  rw [Agrees, ofForm, ofForm]
  rcases container : container? head with _ | c
  · simp only
    rcases parameters? head with _ | c
    · rfl
    · simp only [← agree.length_eq]
      split
      · simp only [toOption_bind, ofForms_toOption agree]
      · rfl
  · simp only
    split
    · simp only [toOption_bind, ofElements_toOption c agree (kept c container)]
    · simp only [toOption_bind, ofPair_toOption agree]
    · rfl

variable {types : TypeVariable → Option Form}

/-- A variable has an argument that is described as the scope tells. -/
def Bound (world : World) (scope : TypeScope) (types : TypeVariable → Option Form)
    (v : TypeVariable) : Prop :=
  ∃ type host, types v = some type ∧ ofForm world [] type = .ok host ∧ scope.lookup v = some host

/-- Several forms are replaced one by one. -/
theorem forall₂_of_replaceAll {forms replaced : List Form}
    (formed : replaceAll types forms = .ok replaced) :
    List.Forall₂ (fun form replaced => form.replace types = .ok replaced) forms replaced := by
  induction forms generalizing replaced with
  | nil =>
    cases formed
    exact .nil
  | cons form rest ih =>
    rw [replaceAll] at formed
    obtain ⟨form', first, formed⟩ := bind_eq_ok_iff.mp formed
    obtain ⟨rest', others, same⟩ := bind_eq_ok_iff.mp formed
    cases same
    exact .cons first (ih others)

mutual

/-- A form whose variables are replaced by arguments is described as the form is where the
variables are bound to the descriptions of the arguments. -/
theorem agrees_replace : ∀ form : Form, (∀ v ∈ form.typeVariables, Bound world scope types v) →
    isSettled types form = true → ∀ replaced, form.replace types = .ok replaced →
      Agrees world scope form replaced
  | .atom a, bound, _, replaced, formed => by
    cases a with
    | «variable» v =>
      obtain ⟨type, host, known, described, met⟩ := bound v List.mem_cons_self
      simp only [Form.replace, known] at formed
      simp only [Agrees, ofForm, ofAtom, met, ofForm_asType described formed]
    | special s =>
      cases formed
      cases s <;> simp only [Agrees, ofForm, ofAtom]
    | _ =>
      cases formed
      simp only [Agrees, ofForm, ofAtom]
  | .annotated type notes, bound, settled, replaced, formed => by
    rw [Form.replace] at formed
    obtain ⟨type', inner, same⟩ := bind_eq_ok_iff.mp formed
    cases same
    simpa only [Agrees, ofForm] using agrees_replace type bound settled type' inner
  | .union barred options, bound, settled, replaced, formed => by
    rw [Form.replace] at formed
    obtain ⟨others, inner, formed⟩ := bind_eq_ok_iff.mp formed
    rw [isSettled, Bool.and_eq_true, inner] at settled
    rw [Form.typeVariables] at bound
    have agree := agree_replaceAll options bound settled.1 others inner
    rcases Bool.or_eq_true_iff.mp settled.2 with places | beside
    · exact agrees_unionOf_places agree places formed
    · obtain ⟨form, found, present⟩ := (Option.any_eq_true ..).mp beside
      exact agrees_unionOf_beside agree (forall₂_of_replaceAll inner) found present formed
  | .generic head arguments, bound, settled, replaced, formed => by
    rw [Form.replace] at formed
    obtain ⟨others, inner, same⟩ := bind_eq_ok_iff.mp formed
    cases same
    rw [isSettled, Bool.and_eq_true, inner] at settled
    rw [Form.typeVariables] at bound
    refine agrees_generic (agree_replaceAll arguments bound settled.1 others inner) ?_
    intro c container
    simpa only [container] using settled.2
  | .initVariable type, _, _, _, rfl => by simp only [Agrees, ofForm]
  | .group grouping items, _, _, _, rfl => by simp only [Agrees, ofForm]

/-- Forms and what they become when their variables are replaced agree one by one. -/
theorem agree_replaceAll : ∀ forms : List Form,
    (∀ v ∈ typeVariablesOf forms, Bound world scope types v) → areSettled types forms = true →
      ∀ replaced, replaceAll types forms = .ok replaced →
        List.Forall₂ (Agrees world scope) forms replaced
  | [], _, _, _, rfl => .nil
  | form :: rest, bound, settled, replaced, formed => by
    rw [areSettled, Bool.and_eq_true] at settled
    rw [replaceAll] at formed
    obtain ⟨form', first, formed⟩ := bind_eq_ok_iff.mp formed
    obtain ⟨rest', others, same⟩ := bind_eq_ok_iff.mp formed
    cases same
    have own : ∀ v ∈ form.typeVariables, Bound world scope types v := fun v member =>
      bound v (mem_typeVariablesOf.mpr ⟨form, List.mem_cons_self, member⟩)
    have behind : ∀ v ∈ typeVariablesOf rest, Bound world scope types v := fun v member => by
      obtain ⟨other, inside, used⟩ := mem_typeVariablesOf.mp member
      exact bound v (mem_typeVariablesOf.mpr ⟨other, List.mem_cons_of_mem _ inside, used⟩)
    exact .cons (agrees_replace form own settled.1 form' first)
      (agree_replaceAll rest behind settled.2 rest' others)

end

end

end Description

end TypeContracts
