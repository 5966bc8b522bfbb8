import TypeContracts.Proofs.Mapping.Parallel

/-!
# Scripts of mappings

The rules never look at the state of the run. So the mapping of a type has a script, a list of
demands that depends on the type alone, and mapping the type in a state carries out the script
on that state (`Mapper.outcome_mapType`).
-/

set_option autoImplicit false

namespace TypeContracts

open MappingM

/-- What the rules may demand of a run. -/
inductive Demand (Loader : Type) where
  | require (host : Host Loader)
  | register (declaration : Declaration)
  | report (event : Event)

variable {Loader State : Type}

/-- Carries out a demand. -/
def Services.serve (services : Services Loader State) (s : State) : Demand Loader → State
  | .require host => services.require host s
  | .register declaration => services.register declaration s
  | .report event => services.report event s

/-- Carries out demands one after another. -/
def Services.serveAll (services : Services Loader State) (demands : List (Demand Loader))
    (s : State) : State :=
  demands.foldl services.serve s

@[simp] theorem Services.serveAll_append (services : Services Loader State)
    (first second : List (Demand Loader)) (s : State) :
    services.serveAll (first ++ second) s = services.serveAll second (services.serveAll first s) :=
  List.foldl_append

/-- Writes demands down in their order. -/
def Demand.services : Services Loader (List (Demand Loader)) where
  require host demands := demands ++ [.require host]
  register declaration demands := demands ++ [.register declaration]
  report event demands := demands ++ [.report event]

namespace Mapper

/-- The rules that write their demands down. -/
def scripted (mapper : Mapper Loader State) : Mapper Loader (List (Demand Loader)) where
  options := mapper.options
  override := mapper.override
  source := mapper.source
  services := Demand.services

/-- What a type maps to, and the demands on the way. -/
def script (mapper : Mapper Loader State) (host : Host Loader) :
    Except Fault Mapped × List (Demand Loader) :=
  outcome (mapper.scripted.mapType host) []

/-- Carrying out what has been written down keeps up with the rules. -/
theorem parallel_scripted {mapper : Mapper Loader State} {targets : List (String × HandWritten)}
    (pointed : mapper.override.PointsTo targets) (start : State) :
    Parallel targets (fun _ => True)
      (fun demands s => s = mapper.services.serveAll demands start) Eq Eq mapper.scripted
      mapper := by
  constructor
  case pointed => exact pointed
  case override => rfl
  case source => rfl
  case dateStyle => rfl
  case enumStyle => rfl
  case optionalProperties => rfl
  case closed => exact fun _ _ _ _ _ => trivial
  case require =>
    rintro host _ demands _ rfl
    exact (mapper.services.serveAll_append demands [.require host] start).symm
  case branded =>
    rintro host _ _ _ _ demands _ rfl
    exact (mapper.services.serveAll_append demands [.register (Mapping.brandedDate host)]
      start).symm
  case report =>
    rintro event demands _ rfl
    exact (mapper.services.serveAll_append demands [.report event] start).symm
  case builtin => exact fun _ => rfl
  case declared => exact fun _ => rfl
  case imported => exact fun _ _ => rfl
  case array =>
    rintro element _ rfl
    rfl
  case union =>
    intro options options' same
    rw [List.forall₂_eq_eq_eq] at same
    rw [same]
  case keyed =>
    rintro key _ value _ rfl rfl
    rfl
  case nullable =>
    rintro form _ rfl own
    unfold applyNullability
    split_ifs
    · exact simulates_pure rfl
    · simp only [scripted]
      cases mapper.options.nullability with
      | plain => exact simulates_pure rfl
      | explicit => exact simulates_pure rfl
      | globalAlias =>
        refine Simulates.bind (R := Eq) ?_ ?_
        · refine (simulates_modify ?_).bind fun _ _ _ => simulates_pure rfl
          rintro demands _ rfl
          exact (mapper.services.serveAll_append demands [.register Mapping.nullableAlias]
            start).symm
        · rintro reference _ rfl
          exact simulates_pure rfl

/-- Types map to the same when their forms and properties are the same. -/
theorem MappedAlike.eq {options : Options} {targets : List (String × HandWritten)}
    {host : Host Loader} {mapped mapped' : Mapped}
    (alike : MappedAlike options targets Eq Eq host mapped mapped') : mapped = mapped' := by
  cases alike with
  | interface same =>
    have equal : ∀ member member', PropertyAlike Eq member member' → member = member' := by
      rintro _ _ ⟨name, isOptional, rfl⟩
      rfl
    have same' := same.imp equal
    rw [List.forall₂_eq_eq_eq] at same'
    rw [same']
  | enumeration => rfl
  | date => rfl
  | inline same => rw [same]

/-- Mapping a type carries out its script. -/
theorem outcome_mapType {mapper : Mapper Loader State} {targets : List (String × HandWritten)}
    (pointed : mapper.override.PointsTo targets) (host : Host Loader) (s : State) :
    outcome (mapper.mapType host) s =
      ((mapper.script host).1, mapper.services.serveAll (mapper.script host).2 s) := by
  have alike := (parallel_scripted pointed s).simulates_mapType host trivial
    (fun _ _ _ _ _ _ => trivial) [] s rfl
  revert alike
  rw [script]
  generalize outcome (mapper.scripted.mapType host) [] = scripted
  generalize outcome (mapper.mapType host) s = direct
  intro alike
  cases alike with
  | ok same related => rw [same.eq, related]
  | error fault related => rw [related]

end Mapper

end TypeContracts
