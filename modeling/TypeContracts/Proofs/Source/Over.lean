import TypeContracts.Proofs.Result
import TypeContracts.Proofs.Source.Distinct
import TypeContracts.Source.Operation

/-!
# The classes that a form mentions

A form is over a set of classes when every class of the contracts that stands in it is one of
them (`Form.Over`). Forming types brings no class into a form that its parts do not mention: what
is formed of forms over a set is over the set again. The owner of a member of an enumeration
does not count, for a member is a value and no type.
-/

set_option autoImplicit false

namespace TypeContracts

open Result

variable {p : ClassRef → Prop}

/-! ## Forms over a set of classes -/

/-- A class that an atom is belongs to the set. -/
def Atom.Over (p : ClassRef → Prop) : Atom → Prop
  | .contract c => p c
  | _ => True

/-- A class that a head is belongs to the set. -/
def Head.Over (p : ClassRef → Prop) : Head → Prop
  | .contract c => p c
  | _ => True

namespace Form

mutual

/-- The classes that stand in a form belong to the set. -/
def Over (p : ClassRef → Prop) : Form → Prop
  | .atom a => a.Over p
  | .generic head arguments => head.Over p ∧ AllOver p arguments
  | .union _ options => AllOver p options
  | .annotated type notes => Over p type ∧ AllOver p notes
  | .initVariable type => Over p type
  | .group _ items => AllOver p items

/-- The classes that stand in forms belong to the set. -/
def AllOver (p : ClassRef → Prop) : List Form → Prop
  | [] => True
  | form :: rest => Over p form ∧ AllOver p rest

end

@[simp] theorem allOver_iff {forms : List Form} : AllOver p forms ↔ ∀ form ∈ forms, form.Over p := by
  induction forms with
  | nil => simp [AllOver]
  | cons form rest ih => simp [AllOver, ih]

attribute [simp] Over Atom.Over Head.Over

mutual

/-- A form over a set is over every greater set. -/
theorem Over.mono {q : ClassRef → Prop} (wider : ∀ c, p c → q c) :
    ∀ {form : Form}, form.Over p → form.Over q
  | .atom a, covered => by
    cases a <;> first | exact trivial | exact wider _ covered
  | .generic head arguments, covered => by
    rw [Over] at covered ⊢
    refine ⟨?_, AllOver.mono wider covered.2⟩
    cases head <;> first | exact trivial | exact wider _ covered.1
  | .union _ _, covered => by
    rw [Over] at covered ⊢
    exact AllOver.mono wider covered
  | .annotated _ _, covered => by
    rw [Over] at covered ⊢
    exact ⟨Over.mono wider covered.1, AllOver.mono wider covered.2⟩
  | .initVariable _, covered => by
    rw [Over] at covered ⊢
    exact Over.mono wider covered
  | .group _ _, covered => by
    rw [Over] at covered ⊢
    exact AllOver.mono wider covered

theorem AllOver.mono {q : ClassRef → Prop} (wider : ∀ c, p c → q c) :
    ∀ {forms : List Form}, AllOver p forms → AllOver q forms
  | [], _ => trivial
  | _ :: _, covered => ⟨Over.mono wider covered.1, AllOver.mono wider covered.2⟩

end

/-! ## Values -/

mutual

/-- The form of a value mentions no class. -/
theorem over_ofValue : ∀ value : EnumValue, (ofValue value).Over p
  | .text _ | .integer _ | .flag _ | .real _ | .absent | .symbol _ _ => trivial
  | .tuple parts => by
    rw [ofValue, Over]
    exact allOver_ofValues parts

theorem allOver_ofValues : ∀ values : List EnumValue, AllOver p (ofValue.ofValues values)
  | [] => trivial
  | value :: rest => ⟨over_ofValue value, allOver_ofValues rest⟩

end

@[simp] theorem over_ofFlag (value : Bool) : (ofFlag value).Over p := trivial

/-! ## Places for types -/

theorem over_reference (text spelling : String) : Yields (reference text spelling) (Over p) := by
  unfold reference
  split
  · simp
  · split <;> simp

/-- What stands for a type is over the set. -/
theorem Over.converted {form : Form} (covered : form.Over p) : Yields form.converted (Over p) := by
  unfold Form.converted
  split
  · simp
  · exact over_reference _ _
  · split
    · exact over_reference _ _
    · simp
  · simpa using covered

theorem Over.asType {form : Form} (covered : form.Over p) (place : Place) (rule : String) :
    Yields (form.asType place rule) (Over p) := by
  rw [Form.asType]
  refine covered.converted.bind fun type typed => ?_
  split <;> (repeat' split) <;> first | exact yields_throw | exact yields_pure.mpr typed

theorem over_mapM_asType {forms : List Form} (covered : ∀ form ∈ forms, form.Over p) (place : Place)
    (rule : String) :
    Yields (forms.mapM (Form.asType place rule)) fun types => ∀ type ∈ types, type.Over p :=
  yields_mapM fun form member => (covered form member).asType place rule

theorem over_mapM_converted {forms : List Form} (covered : ∀ form ∈ forms, form.Over p) :
    Yields (forms.mapM Form.converted) fun types => ∀ type ∈ types, type.Over p :=
  yields_mapM fun form member => (covered form member).converted

theorem Over.arguments {form : Form} (covered : form.Over p) :
    ∀ part ∈ form.arguments, part.Over p := by
  unfold Form.arguments
  split
  · simpa using covered
  · simpa using covered

/-! ## Unions -/

theorem Over.options {form : Form} (covered : form.Over p) :
    ∀ option ∈ form.options, option.Over p := by
  unfold Form.options
  split
  · simpa using covered
  · simpa using covered

theorem over_unionOf {barred : Bool} {forms : List Form} (covered : ∀ form ∈ forms, form.Over p) :
    Yields (unionOf barred forms) (Over p) := by
  have kept : ∀ option ∈ Distinct.listBy same (forms.flatMap Form.options), option.Over p := by
    intro option member
    obtain ⟨form, inside, here⟩ := List.mem_flatMap.mp (Distinct.mem_of_mem_listBy member)
    exact (covered form inside).options option here
  unfold unionOf
  simp only
  split
  · simp
  · split
    next option single =>
      rw [single] at kept
      simpa using kept
    next => simpa using kept

theorem over_unionOfTypes {forms : List Form} (covered : ∀ form ∈ forms, form.Over p) :
    Yields (unionOfTypes forms) (Over p) :=
  (over_mapM_asType covered .argument optionRule).bind fun _ types => over_unionOf types

/-- Nothing stands for its class as an operand, and any other operand for itself. -/
theorem over_operand {form : Form} : form.Over p → Over p (match form with
    | .atom .none => .atom .noneType
    | form => form) := by
  intro covered
  split
  · trivial
  · exact covered

theorem over_alternative {left right : Form} (first : left.Over p) (second : right.Over p) :
    Yields (alternative left right) (Over p) := by
  unfold alternative
  simp only
  refine ite_yields (over_unionOfTypes (by simpa using ⟨first, second⟩)) ?_
  refine ite_yields (over_unionOf ?_) yields_error
  rw [List.forall_mem_cons, List.forall_mem_singleton]
  exact ⟨over_operand first, over_operand second⟩

/-! ## Replacing variables -/

mutual

/-- A form with types in the places of its variables is over the set when the types are. -/
theorem Over.replace {types : TypeVariable → Option Form}
    (each : ∀ v type, types v = some type → type.Over p) :
    ∀ {form : Form}, form.Over p → Yields (form.replace types) (Over p)
  | .atom a, covered => by
    cases a with
    | «variable» v =>
      simp only [Form.replace]
      split
      next type known => exact (each v type known).asType _ _
      next => simp
    | _ => exact yields_ok.mpr covered
  | .generic head arguments, covered => by
    rw [Over] at covered
    rw [Form.replace]
    refine (AllOver.replaceAll each covered.2).bind fun types replaced => ?_
    exact yields_pure.mpr ⟨covered.1, allOver_iff.mpr replaced⟩
  | .union barred options, covered => by
    rw [Over] at covered
    rw [Form.replace]
    exact (AllOver.replaceAll each covered).bind fun types replaced => over_unionOf replaced
  | .annotated type notes, covered => by
    rw [Over] at covered
    rw [Form.replace]
    exact (Over.replace each covered.1).bind fun type replaced =>
      yields_pure.mpr ⟨replaced, covered.2⟩
  | .initVariable type, covered => by
    rw [Form.replace]
    exact yields_ok.mpr covered
  | .group grouping items, covered => by
    rw [Form.replace]
    exact yields_ok.mpr covered

theorem AllOver.replaceAll {types : TypeVariable → Option Form}
    (each : ∀ v type, types v = some type → type.Over p) :
    ∀ {forms : List Form}, AllOver p forms →
      Yields (replaceAll types forms) fun replaced => ∀ form ∈ replaced, form.Over p
  | [], _ => by
    rw [Form.replaceAll]
    simp
  | form :: rest, covered => by
    rw [Form.replaceAll]
    refine (Over.replace each covered.1).bind fun first here => ?_
    refine (AllOver.replaceAll each covered.2).bind fun others behind => ?_
    exact yields_pure.mpr (List.forall_mem_cons.mpr ⟨here, behind⟩)

end

/-! ## Brackets -/

theorem over_annotatedOf {type : Form} {notes : List Form} (covered : type.Over p)
    (each : ∀ note ∈ notes, note.Over p) : (annotatedOf type notes).Over p := by
  unfold annotatedOf
  split
  next inner earlier =>
    rw [Over, allOver_iff] at covered ⊢
    exact ⟨covered.1, List.forall_mem_append.mpr ⟨covered.2, each⟩⟩
  next =>
    rw [Over, allOver_iff]
    exact ⟨covered, each⟩

theorem over_literalOf {values : List Form} (each : ∀ value ∈ values, value.Over p) :
    (literalOf values).Over p := by
  have spread : ∀ value ∈ values.flatMap literalValues, value.Over p := by
    intro value member
    obtain ⟨form, inside, here⟩ := List.mem_flatMap.mp member
    have covered := each form inside
    unfold literalValues at here
    split at here
    · rw [Over, allOver_iff] at covered
      exact covered.2 value here
    · rwa [List.mem_singleton.mp here]
  unfold literalOf
  simp only
  rw [Over, allOver_iff]
  refine ⟨trivial, ?_⟩
  split
  · exact spread
  · exact fun value member => spread value (Distinct.mem_of_mem_listBy member)

theorem over_parameterList {s : Special} {arguments : List Form}
    (each : ∀ argument ∈ arguments, argument.Over p) :
    Yields (parameterList s arguments) (Over p) := by
  unfold parameterList
  refine (over_mapM_converted each).bind fun arguments converted => ?_
  have whole : (Form.generic (.special s) arguments).Over p := by
    rw [Over, allOver_iff]
    exact ⟨trivial, converted⟩
  (repeat' split) <;> first | exact yields_throw | exact yields_pure.mpr whole

theorem over_applySpecial {s : Special} {index : Form} (covered : index.Over p) :
    Yields (applySpecial s index) (Over p) := by
  have parts := covered.arguments
  unfold applySpecial
  cases s with
  | union =>
    simp only
    refine ite_yields yields_throw ?_
    exact over_unionOfTypes parts
  | optional =>
    refine (covered.asType _ _).bind fun type typed => over_unionOfTypes ?_
    simpa using typed
  | literal => exact yields_pure.mpr (over_literalOf parts)
  | classVariable | final =>
    refine (covered.asType _ _).bind fun type typed => yields_pure.mpr ?_
    simpa using typed
  | annotated =>
    simp only
    split
    next type note notes split =>
      rw [split, List.forall_mem_cons] at parts
      refine (parts.1.asType _ _).bind fun type typed => ?_
      exact ite_yields yields_throw (yields_pure.mpr (over_annotatedOf typed parts.2))
    next => exact yields_throw
  | generic | protocol => exact over_parameterList parts
  | initVariable => exact yields_pure.mpr covered

theorem over_takenTypes {form : Form} (covered : form.Over p) :
    Yields (takenTypes form) fun types => ∀ type ∈ types, type.Over p := by
  unfold takenTypes
  split
  · exact over_mapM_converted (by simpa using covered)
  · exact over_mapM_converted (by simpa using covered)
  · exact covered.converted.bind fun type typed => yields_pure.mpr (by simpa using typed)

theorem over_applyAlias {a : Alias} {arguments : List Form}
    (each : ∀ argument ∈ arguments, argument.Over p) :
    Yields (applyAlias a arguments) (Over p) := by
  have applied : ∀ {types : List Form}, (∀ type ∈ types, type.Over p) →
      (Form.generic (.alias a) types).Over p := fun typed => by simpa using typed
  unfold applyAlias
  split
  · refine (over_mapM_asType each _ _).bind fun types typed => ?_
    refine ite_yields yields_throw ?_
    exact ite_yields (yields_pure.mpr (applied typed)) yields_throw
  · refine ite_yields ?_ ?_
    · refine (over_mapM_asType (fun form member => each form ((List.dropLast_sublist _).mem member))
        _ _).bind fun types typed => yields_pure.mpr (applied ?_)
      rw [List.forall_mem_append, List.forall_mem_singleton]
      exact ⟨typed, trivial⟩
    · exact (over_mapM_asType each _ _).bind fun types typed => yields_pure.mpr (applied typed)
  · split
    next taken result =>
      rw [List.forall_mem_cons, List.forall_mem_singleton] at each
      refine (each.2.asType _ _).bind fun type typed => ?_
      refine (over_takenTypes each.1).bind fun types taken => yields_pure.mpr (applied ?_)
      rw [List.forall_mem_append, List.forall_mem_singleton]
      exact ⟨taken, typed⟩
    next => exact yields_throw

theorem over_callArguments {arguments : List Form} (each : ∀ argument ∈ arguments, argument.Over p) :
    Yields (callArguments arguments) fun types => ∀ type ∈ types, type.Over p := by
  unfold callArguments
  split
  · simpa using each
  · rw [yields_ok, List.forall_mem_append]
    simpa [or_imp, forall_and] using each
  · rw [yields_ok, List.forall_mem_append]
    simpa [or_imp, forall_and] using each
  · exact yields_error
  · exact yields_error

theorem over_applyLibrary {c : LibraryClass} {arguments : List Form}
    (each : ∀ argument ∈ arguments, argument.Over p) :
    Yields (applyLibrary c arguments) (Over p) := by
  unfold applyLibrary
  refine ite_yields ?_ (ite_yields ?_ yields_error)
  · exact (over_callArguments each).map fun types typed => by simpa using typed
  · simpa using each

theorem over_applyContract {c : ClassRef} {arguments : List Form} (known : p c)
    (each : ∀ argument ∈ arguments, argument.Over p) :
    Yields (applyContract c arguments) (Over p) := by
  unfold applyContract
  refine (over_mapM_converted each).bind fun types typed => ?_
  refine ite_yields yields_throw (ite_yields (yields_pure.mpr ?_) yields_throw)
  rw [Over, allOver_iff]
  exact ⟨known, typed⟩

theorem over_applyAgain {form : Form} {arguments : List Form} (covered : form.Over p)
    (each : ∀ argument ∈ arguments, argument.Over p) :
    Yields (applyAgain form arguments) (Over p) := by
  have again : ∀ types : List Form, (∀ type ∈ types, type.Over p) →
      Yields (form.replace fun v => (form.typeVariables.zip types).lookup v) (Over p) := by
    intro types typed
    refine covered.replace fun v type known => typed type ?_
    obtain ⟨front, behind, split, _⟩ := List.lookup_eq_some_iff.mp known
    exact (List.of_mem_zip (split ▸ List.mem_append_right front List.mem_cons_self)).2
  unfold applyAgain
  split
  · exact yields_throw
  · exact yields_throw
  · simp only
    refine ite_yields yields_throw (ite_yields ?_ ?_)
    · refine (over_mapM_converted each).bind fun types typed => ?_
      exact ite_yields yields_throw (again types typed)
    · exact ite_yields yields_throw (again arguments each)

end Form

/-! ## Operations -/

namespace Operation

open Form

theorem over_joined {left right : Form} (first : left.Over p) (second : right.Over p) :
    Yields (joined left right) (Form.Over p) := by
  unfold joined
  split
  · simp only [Form.Over, allOver_iff] at first second
    simpa [or_imp, forall_and] using ⟨first, second⟩
  · simp only [Form.Over, allOver_iff] at first second
    simpa [or_imp, forall_and] using ⟨first, second⟩
  · split
    · exact yields_ok.mpr (over_ofValue _)
    · exact ite_yields yields_error yields_error

theorem mem_of_mem_repeated {α : Type} {parts : List α} {count : Int} {part : α}
    (member : part ∈ repeated parts count) : part ∈ parts := by
  obtain ⟨again, copied, inside⟩ := List.mem_flatten.mp member
  exact List.eq_of_mem_replicate copied ▸ inside

/-- What is taken several times is over the set when its items are. -/
theorem over_taken (items count : Form) : items.Over p → ∀ formed : Formed,
    (match items, items.value, count.value.whole? with
      | .group grouping items', _, some n =>
        if ["str", "list", "tuple"].contains items.value.sort then
          some (.ok (.group grouping (repeated items' n)))
        else none
      | _, .text text, some n =>
        some (.ok (ofValue (.text (String.ofList (repeated text.toList n)))))
      | _, _, none =>
        if ["str", "list", "tuple"].contains items.value.sort then
          some (.error (.noCount count.sort))
        else none
      | _, _, _ => (none : Option Formed)) = some formed → Yields formed (Form.Over p) := by
  intro covered formed found
  split at found
  · split at found <;> cases found
    rw [yields_ok]
    rw [Form.Over, allOver_iff] at covered ⊢
    exact fun item member => covered item (mem_of_mem_repeated member)
  · cases found
    exact yields_ok.mpr (over_ofValue _)
  · split at found <;> cases found
    exact yields_error
  · cases found

theorem over_multiplied {left right : Form} (first : left.Over p) (second : right.Over p) :
    Yields (multiplied left right) (Form.Over p) := by
  unfold multiplied
  exact yields_getD_orElse (over_taken left right first) (over_taken right left second) yields_error

/-- What an operator makes of whole numbers is a number. -/
theorem over_onWhole? {operator : Operator} {m n : Int} {formed : Formed}
    (found : onWhole? operator m n = some formed) : Yields formed (Form.Over p) := by
  have numbers : ∀ {k : Int}, Yields (.ok (whole k) : Formed) (Form.Over p) :=
    yields_ok.mpr trivial
  cases operator with
  | either | both | exclusive | add | subtract | multiply =>
    obtain rfl := Option.some.inj found
    exact numbers
  | shiftLeft =>
    obtain rfl := Option.some.inj found
    exact ite_yields yields_error (ite_yields yields_error numbers)
  | shiftRight | divideDown | remainder =>
    obtain rfl := Option.some.inj found
    exact ite_yields yields_error numbers
  | divide =>
    obtain rfl := Option.some.inj found
    exact ite_yields yields_error (yields_ok.mpr trivial)
  | power =>
    rw [onWhole?] at found
    split at found
    · cases found
    · split at found
      · obtain rfl := Option.some.inj found
        exact yields_error
      · obtain rfl := Option.some.inj found
        exact numbers
  | product => cases found

theorem over_bounded (result : Binary64) : Yields (bounded result) (Form.Over p) := by
  cases result <;> first | exact yields_error | exact yields_ok.mpr trivial

theorem over_raisedBy (n m : Int) (d times : Nat) :
    Yields (raisedBy n m d times) (Form.Over p) := by
  unfold raisedBy raised
  exact ite_yields (ite_yields (yields_ok.mpr trivial) (over_bounded _))
    (ite_yields yields_error (over_bounded _))

theorem over_power? {x y : Binary64} {formed : Formed} (found : power? x y = some formed) :
    Yields formed (Form.Over p) := by
  unfold power? at found
  obtain ⟨⟨n, e⟩, _, found⟩ := Option.bind_eq_some_iff.mp found
  obtain ⟨⟨m, d⟩, _, found⟩ := Option.bind_eq_some_iff.mp found
  simp only [Option.ite_none_left_eq_some, Option.some.injEq] at found
  exact found.2 ▸ over_raisedBy _ _ _ _

/-- What an operator makes of double-precision numbers is a number. -/
theorem over_onReal? {operator : Operator} {x y : Binary64} {formed : Formed}
    (found : onReal? operator x y = some formed) : Yields formed (Form.Over p) := by
  unfold onReal? at found
  simp only at found
  split at found <;> first
    | exact over_power? found
    | cases found <;> first
      | exact yields_ok.mpr trivial
      | exact ite_yields yields_error (yields_ok.mpr trivial)

theorem over_combine {operator : Operator} {left right : Form} (first : left.Over p)
    (second : right.Over p) : Yields (combine operator left right) (Form.Over p) := by
  have general : ∀ m? n?, Yields (combine.general operator left right m? n?) (Form.Over p) := by
    intro m? n?
    unfold combine.general
    split
    · exact yields_getD_orElse (fun _ => over_onWhole?) (fun _ => over_onReal?) yields_error
    · exact yields_getD (fun _ => over_onReal?) yields_error
    · split
      · exact over_alternative first second
      · exact over_joined first second
      · exact over_multiplied first second
      · split <;> exact yields_error
      · exact yields_error
  unfold combine
  split
  · split
    next found =>
      unfold onFlags? at found
      split at found <;> cases found <;> exact yields_ok.mpr trivial
    next => exact general _ _
  · exact general _ _

theorem over_turn (turn : Turn) (operand : Form) :
    Yields (Operation.turn turn operand) (Form.Over p) := by
  unfold Operation.turn
  split <;> simp [whole, real]

theorem mem_of_part? {α : Type} {parts : List α} {index : Int} {part : α}
    (found : part? parts index = some part) : part ∈ parts := by
  unfold part? at found
  split at found
  · exact List.mem_of_getElem? found
  · split at found
    · cases found
    · exact List.mem_of_getElem? found

theorem over_found {key : Form} : ∀ {items : List Form}, (∀ item ∈ items, item.Over p) →
    ∀ {value : Form}, Operation.index.entry? key items = some value → value.Over p
  | [], _, _, found => by cases found
  | [_], _, _, found => by cases found
  | first :: second :: rest, each, value, found => by
    simp only [List.forall_mem_cons] at each
    rw [Operation.index.entry?] at found
    split at found
    · exact Option.some.inj found ▸ each.2.1
    · exact over_found each.2.2 found

theorem over_index {head index : Form} (covered : head.Over p) :
    Yields (Operation.index head index) (Form.Over p) := by
  unfold Operation.index
  split
  · rw [Form.Over, allOver_iff] at covered
    split
    · exact yields_error
    · split
      next found => exact yields_ok.mpr (over_found covered found)
      next => split <;> exact yields_error
  · exact yields_error
  · rw [Form.Over, allOver_iff] at covered
    split
    next found => exact yields_ok.mpr (covered _ (mem_of_part? found))
    next => exact yields_error
  · exact yields_error
  · split
    · exact yields_ok.mpr (over_ofValue _)
    · exact yields_error
  · exact yields_error
  · exact yields_error

end Operation

end TypeContracts
