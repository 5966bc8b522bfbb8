import Mathlib.Data.List.Forall2

/-!
# Results

What comes of steps that can fail: the value of a step and the one behind it, the outputs of a
traversal, and results that are compared by their values only.
-/

set_option autoImplicit false

namespace TypeContracts.Result

variable {α β ε : Type}

/-- A step and the one behind it have a value when both have one. -/
theorem bind_eq_ok_iff {first : Except ε α} {second : α → Except ε β} {output : β} :
    first >>= second = .ok output ↔ ∃ value, first = .ok value ∧ second value = .ok output := by
  cases first <;> simp [bind, Except.bind]

/-- A step and the one behind it fail where the first fails, or behind its value. -/
theorem bind_eq_error_iff {first : Except ε α} {second : α → Except ε β} {fault : ε} :
    first >>= second = .error fault ↔
      first = .error fault ∨ ∃ value, first = .ok value ∧ second value = .error fault := by
  cases first <;> simp [bind, Except.bind]

/-- The value of a step and the one behind it. -/
theorem toOption_bind (first : Except ε α) (second : α → Except ε β) :
    (first >>= second).toOption = first.toOption.bind fun value => (second value).toOption := by
  cases first <;> rfl

/-- Results with the same value have the same value after a change. -/
theorem toOption_map_congr {first second : Except ε α} {change : α → β}
    (same : first.toOption = second.toOption) :
    (first.map change).toOption = (second.map change).toOption := by
  cases first <;> cases second <;> cases same <;> rfl

/-- A traversal gives one output for each input, in their order. -/
theorem mapM_eq_ok_iff {step : α → Except ε β} {inputs : List α} {outputs : List β} :
    inputs.mapM step = .ok outputs ↔
      List.Forall₂ (fun input output => step input = .ok output) inputs outputs := by
  induction inputs generalizing outputs with
  | nil => cases outputs <;> simp [pure, Except.pure]
  | cons input rest ih =>
    rw [List.mapM_cons, List.forall₂_cons_left_iff, bind_eq_ok_iff]
    refine exists_congr fun output => ?_
    rw [bind_eq_ok_iff]
    constructor
    · rintro ⟨here, others, behind, same⟩
      cases same
      exact ⟨others, here, ih.mp behind, rfl⟩
    · rintro ⟨others, here, behind, rfl⟩
      exact ⟨here, others, ih.mpr behind, rfl⟩

/-- A traversal gives outputs of its inputs only. -/
theorem exists_of_mem_mapM {step : α → Except ε β} {inputs : List α} {outputs : List β}
    (traversed : inputs.mapM step = .ok outputs) {output : β} (member : output ∈ outputs) :
    ∃ input ∈ inputs, step input = .ok output := by
  have paired := mapM_eq_ok_iff.mp traversed
  clear traversed
  induction paired with
  | nil => cases member
  | @cons input head rest tail here behind ih =>
    rcases List.mem_cons.mp member with rfl | later
    · exact ⟨input, List.mem_cons_self, here⟩
    · obtain ⟨origin, inside, stepped⟩ := ih later
      exact ⟨origin, List.mem_cons_of_mem _ inside, stepped⟩

/-- A traversal gives an output for each of its inputs. -/
theorem exists_of_mem_inputs {step : α → Except ε β} {inputs : List α} {outputs : List β}
    (traversed : inputs.mapM step = .ok outputs) {input : α} (member : input ∈ inputs) :
    ∃ output ∈ outputs, step input = .ok output := by
  have paired := mapM_eq_ok_iff.mp traversed
  clear traversed
  induction paired with
  | nil => cases member
  | @cons first head rest tail here behind ih =>
    rcases List.mem_cons.mp member with rfl | later
    · exact ⟨head, List.mem_cons_self, here⟩
    · obtain ⟨output, inside, stepped⟩ := ih later
      exact ⟨output, List.mem_cons_of_mem _ inside, stepped⟩

/-- The outputs of a traversal are the values of its step at the inputs. -/
theorem mem_mapM_iff {step : α → Except ε β} {inputs : List α} {outputs : List β}
    (traversed : inputs.mapM step = .ok outputs) {output : β} :
    output ∈ outputs ↔ ∃ input ∈ inputs, step input = .ok output := by
  refine ⟨exists_of_mem_mapM traversed, ?_⟩
  rintro ⟨input, inside, stepped⟩
  obtain ⟨other, member, stepped'⟩ := exists_of_mem_inputs traversed inside
  obtain rfl := Except.ok.inj (stepped.symm.trans stepped')
  exact member

/-- A traversal has outputs when its step has one at every input. -/
theorem exists_mapM_eq_ok_iff {step : α → Except ε β} {inputs : List α} :
    (∃ outputs, inputs.mapM step = .ok outputs) ↔
      ∀ input ∈ inputs, ∃ output, step input = .ok output := by
  constructor
  · rintro ⟨outputs, traversed⟩ input inside
    obtain ⟨output, _, stepped⟩ := exists_of_mem_inputs traversed inside
    exact ⟨output, stepped⟩
  · intro each
    induction inputs with
    | nil => exact ⟨[], rfl⟩
    | cons input rest ih =>
      rw [List.forall_mem_cons] at each
      obtain ⟨output, here⟩ := each.1
      obtain ⟨outputs, behind⟩ := ih each.2
      exact ⟨output :: outputs, mapM_eq_ok_iff.mpr (.cons here (mapM_eq_ok_iff.mp behind))⟩

/-- Traversals with steps that agree on the inputs agree. -/
theorem mapM_congr {step step' : α → Except ε β} {inputs : List α}
    (same : ∀ input ∈ inputs, step input = step' input) : inputs.mapM step = inputs.mapM step' := by
  induction inputs with
  | nil => rfl
  | cons input rest ih =>
    rw [List.forall_mem_cons] at same
    rw [List.mapM_cons, List.mapM_cons, same.1, ih same.2]

/-! ## Properties of values -/

/-- The value of a result has a property, if there is a value. -/
def Yields (result : Except ε α) (p : α → Prop) : Prop := ∀ value, result = .ok value → p value

variable {p : α → Prop} {q : β → Prop}

@[simp] theorem yields_ok {value : α} : Yields (.ok value : Except ε α) p ↔ p value :=
  ⟨fun holds => holds value rfl, fun holds _ same => Except.ok.inj same ▸ holds⟩

@[simp] theorem yields_error {fault : ε} : Yields (.error fault : Except ε α) p := nofun

@[simp] theorem yields_pure {value : α} : Yields (pure value : Except ε α) p ↔ p value := yields_ok

@[simp] theorem yields_throw {fault : ε} : Yields (throw fault : Except ε α) p := nofun

theorem Yields.bind {first : Except ε α} {second : α → Except ε β} (here : Yields first p)
    (behind : ∀ value, p value → Yields (second value) q) : Yields (first >>= second) q := by
  intro output whole
  obtain ⟨value, found, rest⟩ := bind_eq_ok_iff.mp whole
  exact behind value (here value found) output rest

theorem Yields.map {result : Except ε α} {change : α → β} (here : Yields result p)
    (changed : ∀ value, p value → q (change value)) : Yields (result.map change) q := by
  cases result with
  | error fault => exact nofun
  | ok value => exact yields_ok.mpr (changed value (yields_ok.mp here))

theorem Yields.mono {result : Except ε α} {p' : α → Prop} (here : Yields result p)
    (weaker : ∀ value, p value → p' value) : Yields result p' :=
  fun value found => weaker value (here value found)

theorem Yields.and {result : Except ε α} {p' : α → Prop} (here : Yields result p)
    (also : Yields result p') : Yields result fun value => p value ∧ p' value :=
  fun value found => ⟨here value found, also value found⟩

/-- A choice between two results has what both have. -/
theorem ite_yields {condition : Prop} [Decidable condition] {first second : Except ε α}
    (yes : Yields first p) (no : Yields second p) :
    Yields (if condition then first else second) p := by
  split
  · exact yes
  · exact no

theorem yields_getD {result : Option (Except ε α)} {other : Except ε α}
    (here : ∀ found, result = some found → Yields found p) (missing : Yields other p) :
    Yields (result.getD other) p := by
  cases result with
  | none => exact missing
  | some found => exact here found rfl

theorem yields_getD_orElse {first second : Option (Except ε α)} {other : Except ε α}
    (here : ∀ found, first = some found → Yields found p)
    (behind : ∀ found, second = some found → Yields found p) (missing : Yields other p) :
    Yields ((first <|> second).getD other) p := by
  cases first with
  | none => exact yields_getD behind missing
  | some found => exact here found rfl

/-- The outputs of a traversal have what the output of each input has. -/
theorem yields_mapM {step : α → Except ε β} {inputs : List α}
    (each : ∀ input ∈ inputs, Yields (step input) q) :
    Yields (inputs.mapM step) fun outputs => ∀ output ∈ outputs, q output := by
  intro outputs traversed output member
  obtain ⟨input, inside, stepped⟩ := exists_of_mem_mapM traversed member
  exact each input inside output stepped

/-- What holds at the start of a fold and is kept by each step holds at the end. -/
theorem yields_foldlM {step : β → α → Except ε β} {inputs : List α} {start : β} (here : q start)
    (each : ∀ input ∈ inputs, ∀ value, q value → Yields (step value input) q) :
    Yields (inputs.foldlM step start) q := by
  induction inputs generalizing start with
  | nil => exact yields_pure.mpr here
  | cons input rest ih =>
    rw [List.forall_mem_cons] at each
    rw [List.foldlM_cons]
    exact (each.1 start here).bind fun value holds => ih holds each.2

/-! ## Properties of faults -/

/-- The fault of a result has a property, if there is a fault. -/
def Fails (result : Except ε α) (q : ε → Prop) : Prop := ∀ fault, result = .error fault → q fault

variable {r : ε → Prop}

@[simp] theorem fails_ok {value : α} : Fails (.ok value : Except ε α) r := nofun

@[simp] theorem fails_pure {value : α} : Fails (pure value : Except ε α) r := nofun

@[simp] theorem fails_error {fault : ε} : Fails (.error fault : Except ε α) r ↔ r fault :=
  ⟨fun holds => holds fault rfl, fun holds _ same => Except.error.inj same ▸ holds⟩

theorem Fails.bind_of_ok {first : Except ε α} {second : α → Except ε β} (here : Fails first r)
    (behind : ∀ value, first = .ok value → Fails (second value) r) :
    Fails (first >>= second) r := by
  cases first with
  | error fault => exact fails_error.mpr (fails_error.mp here)
  | ok value => exact behind value rfl

theorem Fails.bind {first : Except ε α} {second : α → Except ε β} (here : Fails first r)
    (behind : ∀ value, Fails (second value) r) : Fails (first >>= second) r :=
  here.bind_of_ok fun value _ => behind value

theorem Fails.mono {result : Except ε α} {r' : ε → Prop} (here : Fails result r)
    (weaker : ∀ fault, r fault → r' fault) : Fails result r' :=
  fun fault found => weaker fault (here fault found)

theorem ite_fails {condition : Prop} [Decidable condition] {first second : Except ε α}
    (yes : Fails first r) (no : Fails second r) :
    Fails (if condition then first else second) r := by
  split
  · exact yes
  · exact no

/-- A traversal fails as a step fails on one of its inputs. -/
theorem fails_mapM {step : α → Except ε β} {inputs : List α}
    (each : ∀ input ∈ inputs, Fails (step input) r) : Fails (inputs.mapM step) r := by
  induction inputs with
  | nil => exact fails_pure
  | cons input rest ih =>
    rw [List.forall_mem_cons] at each
    rw [List.mapM_cons]
    exact each.1.bind fun _ => (ih each.2).bind fun _ => fails_pure

theorem fails_foldlM {step : β → α → Except ε β} {inputs : List α} {start : β}
    (each : ∀ input ∈ inputs, ∀ value, Fails (step value input) r) :
    Fails (inputs.foldlM step start) r := by
  induction inputs generalizing start with
  | nil => exact fails_pure
  | cons input rest ih =>
    rw [List.forall_mem_cons] at each
    rw [List.foldlM_cons]
    exact (each.1 start).bind fun _ => ih each.2

end TypeContracts.Result
