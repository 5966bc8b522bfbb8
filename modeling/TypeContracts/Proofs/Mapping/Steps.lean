import TypeContracts.Mapping.Rules

/-!
# Steps of a mapping

A step ends in a value or a fault, and in a state (`MappingM.outcome`). A step keeps a
property of states when the property holds afterwards wherever it held before, whether the
step fails or not. Steps are put together from others, and so are the properties that they
keep (`MappingM.Keeps.bind`).
-/

set_option autoImplicit false

namespace TypeContracts.MappingM

variable {State α β : Type}

/-! ## Outcomes -/

/-- What a step ends in, and the state afterwards. -/
def outcome (step : MappingM State α) (s : State) : Except Fault α × State := step.run.run s

@[simp] theorem outcome_pure (value : α) (s : State) :
    outcome (pure value : MappingM State α) s = (.ok value, s) := rfl

@[simp] theorem outcome_throw (fault : Fault) (s : State) :
    outcome (throw fault : MappingM State α) s = (.error fault, s) := rfl

@[simp] theorem outcome_modify (change : State → State) (s : State) :
    outcome (modify change : MappingM State Unit) s = (.ok (), change s) := rfl

@[simp] theorem outcome_get (s : State) :
    outcome (get : MappingM State State) s = (.ok s, s) := rfl

/-- A step followed by another goes on where the first one ends, unless it fails. -/
theorem outcome_bind (step : MappingM State α) (next : α → MappingM State β) (s : State) :
    outcome (step >>= next) s =
      match outcome step s with
      | (.ok value, t) => outcome (next value) t
      | (.error fault, t) => (.error fault, t) := by
  simp only [outcome, ExceptT.run_bind, StateT.run_bind]
  cases step.run.run s with
  | mk result t => cases result <;> rfl

/-- A sequence of steps succeeds when its first part does and the rest does behind it. -/
theorem outcome_bind_eq_ok {step : MappingM State α} {next : α → MappingM State β}
    {s u : State} {result : β} :
    outcome (step >>= next) s = (.ok result, u) ↔
      ∃ value t, outcome step s = (.ok value, t) ∧ outcome (next value) t = (.ok result, u) := by
  rw [outcome_bind]
  rcases outcome step s with ⟨fault | value, t⟩
  · simp
  · constructor
    · exact fun done => ⟨value, t, rfl, done⟩
    · rintro ⟨_, _, same, done⟩
      cases same
      exact done

/-! ## Properties that steps keep -/

/-- The step keeps a property of states. -/
def Keeps (property : State → Prop) (step : MappingM State α) : Prop :=
  ∀ s, property s → property (outcome step s).2

variable {property : State → Prop}

theorem keeps_pure (value : α) : Keeps property (pure value : MappingM State α) :=
  fun _ holds => holds

theorem keeps_throw (fault : Fault) : Keeps property (throw fault : MappingM State α) :=
  fun _ holds => holds

theorem keeps_get : Keeps property (get : MappingM State State) := fun _ holds => holds

theorem keeps_modify {change : State → State} (kept : ∀ s, property s → property (change s)) :
    Keeps property (modify change : MappingM State Unit) := kept

theorem Keeps.bind {step : MappingM State α} {next : α → MappingM State β}
    (first : Keeps property step) (behind : ∀ value, Keeps property (next value)) :
    Keeps property (step >>= next) := by
  intro s holds
  have middle := first s holds
  rw [outcome_bind]
  rcases done : outcome step s with ⟨fault | value, t⟩ <;> rw [done] at middle
  · exact middle
  · exact behind value t middle

end TypeContracts.MappingM
