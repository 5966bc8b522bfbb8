import TypeContracts.Proofs.Mapping.Steps

/-!
# Steps side by side

Two steps that act on different states are compared through a relation of their states and
a relation of their values. One simulates the other when from related states both fail with
the same fault or both succeed with related values, and the states are related again
(`MappingM.Simulates`). Sequences of steps are compared part by part (`Simulates.bind`).
-/

set_option autoImplicit false

namespace TypeContracts.MappingM

variable {State State' α α' β β' : Type} {states : State → State' → Prop}
  {values : α → α' → Prop} {values' : β → β' → Prop}

/-- Two outcomes are the same fault or related values, in related states. -/
inductive Alike (states : State → State' → Prop) (values : α → α' → Prop) :
    Except Fault α × State → Except Fault α' × State' → Prop where
  | ok {value : α} {value' : α'} {s : State} {s' : State'} (same : values value value')
    (related : states s s') : Alike states values (.ok value, s) (.ok value', s')
  | error (fault : Fault) {s : State} {s' : State'} (related : states s s') :
    Alike states values (.error fault, s) (.error fault, s')

/-- From related states, the steps have outcomes that are alike. -/
def Simulates (states : State → State' → Prop) (values : α → α' → Prop)
    (step : MappingM State α) (step' : MappingM State' α') : Prop :=
  ∀ s s', states s s' → Alike states values (outcome step s) (outcome step' s')

theorem simulates_pure {value : α} {value' : α'} (same : values value value') :
    Simulates states values (pure value) (pure value') :=
  fun _ _ related => .ok same related

theorem simulates_throw (fault : Fault) :
    Simulates states values (throw fault) (throw fault) :=
  fun _ _ related => .error fault related

theorem simulates_modify {change : State → State} {change' : State' → State'}
    (kept : ∀ s s', states s s' → states (change s) (change' s')) :
    Simulates states (fun _ _ => True) (modify change) (modify change') :=
  fun s s' related => .ok trivial (kept s s' related)

/-- Sequences are compared part by part. -/
theorem Simulates.bind {R : α → α' → Prop} {step : MappingM State α} {step' : MappingM State' α'}
    {next : α → MappingM State β} {next' : α' → MappingM State' β'}
    (first : Simulates states R step step')
    (behind : ∀ value value', R value value' →
      Simulates states values' (next value) (next' value')) :
    Simulates states values' (step >>= next) (step' >>= next') := by
  intro s s' related
  have middle := first s s' related
  rw [outcome_bind, outcome_bind]
  revert middle
  generalize outcome step s = before
  generalize outcome step' s' = before'
  intro middle
  cases middle with
  | ok same related' => exact behind _ _ same _ _ related'
  | error fault related' => exact .error fault related'

/-- Steps that look at their states are compared state by state. -/
theorem simulates_get_bind {next : State → MappingM State α}
    {next' : State' → MappingM State' α'}
    (behind : ∀ s s', states s s' →
      Alike states values (outcome (next s) s) (outcome (next' s') s')) :
    Simulates states values (get >>= next) (get >>= next') := by
  intro s s' related
  rw [outcome_bind, outcome_bind, outcome_get, outcome_get]
  exact behind s s' related

theorem Alike.mono {outcome : Except Fault α × State} {outcome' : Except Fault α' × State'}
    {wider : α → α' → Prop} (alike : Alike states values outcome outcome')
    (weaker : ∀ value value', values value value' → wider value value') :
    Alike states wider outcome outcome' := by
  cases alike with
  | ok same related => exact .ok (weaker _ _ same) related
  | error fault related => exact .error fault related

theorem Simulates.mono {step : MappingM State α} {step' : MappingM State' α'}
    {wider : α → α' → Prop} (simulates : Simulates states values step step')
    (weaker : ∀ value value', values value value' → wider value value') :
    Simulates states wider step step' :=
  fun s s' related => (simulates s s' related).mono weaker

end TypeContracts.MappingM
