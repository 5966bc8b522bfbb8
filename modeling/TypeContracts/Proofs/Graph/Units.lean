import Mathlib.Data.List.Nodup
import Mathlib.Tactic.SplitIfs
import TypeContracts.Graph.Units
import TypeContracts.Proofs.Result

/-!
# The units of a cache

Assigning units puts every declaration of the cache into exactly one unit, that of its
path; the paths of the units differ, and so do the names of a unit (`Graph.Assigned`).
The step is one placement (`Graph.place_spec`), and the run follows the cache
(`Graph.assigned_assignUnits`).
-/

set_option autoImplicit false

namespace TypeContracts.Graph

variable {options : Options} {layout : Layout}

/-- A declaration is put behind those of the unit with its path, or into a new unit behind
all others. Its name is new in the unit. -/
theorem place_spec {path : String} {declaration : Declaration} {units placed : List OutputUnit}
    (done : place path declaration units = .ok placed) :
    (path ∉ units.map OutputUnit.path ∧
        placed = units ++ [{ path := path, declarations := [declaration] }]) ∨
      ∃ front unit back, units = front ++ unit :: back ∧ unit.path = path ∧
        declaration.name ∉ unit.declarations.map Declaration.name ∧
        placed = front ++
          { unit with declarations := unit.declarations ++ [declaration] } :: back := by
  induction units generalizing placed with
  | nil =>
    rw [place] at done
    cases done
    exact .inl ⟨by simp, rfl⟩
  | cons unit others ih =>
    rw [place] at done
    split_ifs at done with here
    · rw [OutputUnit.addDeclaration] at done
      split_ifs at done with twice
      · cases done
      · cases done
        refine .inr ⟨[], unit, others, rfl, here, ?_, rfl⟩
        simpa [OutputUnit.declares] using twice
    · obtain ⟨others', rest, same⟩ := Result.bind_eq_ok_iff.mp done
      cases same
      rcases ih rest with ⟨new, rfl⟩ | ⟨front, home, back, rfl, same, fresh, rfl⟩
      · exact .inl ⟨by simpa using ⟨fun same => here same.symm, by simpa using new⟩, rfl⟩
      · exact .inr ⟨unit :: front, home, back, rfl, same, fresh, rfl⟩

/-- Units hold the declarations of a cache, each one once and at its path. -/
structure Housed (options : Options) (layout : Layout) (cache : List (Identity × Declaration))
    (units : List OutputUnit) : Prop where
  paths : (units.map OutputUnit.path).Nodup
  whole : (units.flatMap OutputUnit.declarations).Perm (cache.map Prod.snd)
  homed : ∀ unit ∈ units, ∀ declaration ∈ unit.declarations,
    unit.path = unitPath options layout declaration.identity declaration
  inhabited : ∀ unit ∈ units, unit.declarations ≠ []

/-- The path of a unit is a normal path. -/
theorem Housed.normal {cache : List (Identity × Declaration)} {units : List OutputUnit}
    (housed : Housed options layout cache units) {unit : OutputUnit} (listed : unit ∈ units) :
    ∃ written, unit.path = UnitPath.normalise written := by
  obtain ⟨declaration, inside⟩ := List.exists_mem_of_ne_nil _ (housed.inhabited unit listed)
  exact ⟨_, housed.homed unit listed declaration inside⟩

/-- Every declaration of the cache has a unit. -/
theorem Housed.exists_home {cache : List (Identity × Declaration)} {units : List OutputUnit}
    (housed : Housed options layout cache units) {identity : Identity}
    {declaration : Declaration} (cached : (identity, declaration) ∈ cache) :
    ∃ home ∈ units, declaration ∈ home.declarations ∧
      home.path = unitPath options layout declaration.identity declaration := by
  have member : declaration ∈ units.flatMap OutputUnit.declarations :=
    housed.whole.mem_iff.mpr (List.mem_map.mpr ⟨_, cached, rfl⟩)
  obtain ⟨home, listed, inside⟩ := List.mem_flatMap.mp member
  exact ⟨home, listed, inside, housed.homed home listed declaration inside⟩

/-- Units stay housed in another order. -/
theorem Housed.perm {cache : List (Identity × Declaration)} {units others : List OutputUnit}
    (housed : Housed options layout cache units) (order : others.Perm units) :
    Housed options layout cache others where
  paths := (order.map _).nodup_iff.mpr housed.paths
  whole := (order.flatMap_right _).trans housed.whole
  homed unit member := housed.homed unit (order.mem_iff.mp member)
  inhabited unit member := housed.inhabited unit (order.mem_iff.mp member)

/-- Units with nothing imported yet: each declares different names. -/
structure Assigned (options : Options) (layout : Layout)
    (cache : List (Identity × Declaration)) (units : List OutputUnit) : Prop extends
    Housed options layout cache units where
  scope : ∀ unit ∈ units, (unit.declarations.map Declaration.name).Nodup
  bare : ∀ unit ∈ units, unit.imports = []

theorem assigned_nil : Assigned options layout [] [] :=
  ⟨⟨List.nodup_nil, .nil, by simp, by simp⟩, by simp, by simp⟩

/-- Placing one more declaration of a cache keeps the units in order. -/
theorem Assigned.place {cache : List (Identity × Declaration)} {units placed : List OutputUnit}
    (assigned : Assigned options layout cache units) {declaration : Declaration}
    (done : Graph.place (unitPath options layout declaration.identity declaration) declaration
      units = .ok placed) :
    Assigned options layout (cache ++ [(declaration.identity, declaration)]) placed := by
  rcases place_spec done with ⟨new, rfl⟩ | ⟨front, home, back, rfl, same, fresh, rfl⟩
  · refine ⟨⟨?_, ?_, ?_, ?_⟩, ?_, ?_⟩
    · rw [List.map_append, List.map_singleton, ← List.concat_eq_append]
      exact .concat new assigned.paths
    · rw [List.flatMap_append, List.map_append]
      exact assigned.whole.append (.refl _)
    · simp only [List.forall_mem_append, List.forall_mem_singleton]
      exact ⟨assigned.homed, trivial⟩
    · simp only [List.forall_mem_append, List.forall_mem_singleton]
      exact ⟨assigned.inhabited, by simp⟩
    · simp only [List.forall_mem_append, List.forall_mem_singleton]
      exact ⟨assigned.scope, by simp⟩
    · simp only [List.forall_mem_append, List.forall_mem_singleton]
      exact ⟨assigned.bare, trivial⟩
  · have homed := assigned.homed
    have scope := assigned.scope
    have bare := assigned.bare
    have inhabited := assigned.inhabited
    simp only [List.forall_mem_append, List.forall_mem_cons] at homed scope bare inhabited
    refine ⟨⟨?_, ?_, ?_, ?_⟩, ?_, ?_⟩
    · simpa using assigned.paths
    · have whole := assigned.whole
      simp only [List.flatMap_append, List.flatMap_cons, List.map_append, List.append_assoc]
        at whole ⊢
      refine .trans ?_ (whole.append_right _)
      simp only [List.append_assoc]
      exact .append_left _ (.append_left _ List.perm_append_comm)
    · simp only [List.forall_mem_append, List.forall_mem_cons]
      exact ⟨homed.1, ⟨homed.2.1, same, by simp⟩, homed.2.2⟩
    · simp only [List.forall_mem_append, List.forall_mem_cons]
      exact ⟨inhabited.1, by simp, inhabited.2.2⟩
    · simp only [List.forall_mem_append, List.forall_mem_cons]
      refine ⟨scope.1, ?_, scope.2.2⟩
      rw [List.map_append, List.map_singleton, ← List.concat_eq_append]
      exact .concat fresh scope.2.1
    · simp only [List.forall_mem_append, List.forall_mem_cons]
      exact bare

/-- Assigning units puts every declaration of the cache into one unit. -/
theorem assigned_assignUnits {cache rest : List (Identity × Declaration)}
    (keyed : ∀ entry ∈ rest, entry.2.identity = entry.1) {units assigned : List OutputUnit}
    (before : Assigned options layout cache units)
    (done : assignUnits options layout units rest = .ok assigned) :
    Assigned options layout (cache ++ rest) assigned := by
  induction rest generalizing cache units with
  | nil =>
    cases done
    rwa [List.append_nil]
  | cons entry rest ih =>
    obtain ⟨identity, declaration⟩ := entry
    rw [List.forall_mem_cons] at keyed
    obtain ⟨own, keyed⟩ := keyed
    obtain rfl : declaration.identity = identity := own
    rw [assignUnits] at done
    obtain ⟨placed, first, others⟩ := Result.bind_eq_ok_iff.mp done
    have whole := ih keyed (before.place first) others
    rwa [List.append_assoc] at whole

/-- Imports are resolved unit by unit. -/
theorem resolveImports_eq_mapM (homes : Homes) (units : List OutputUnit) :
    resolveImports homes units =
      units.mapM fun unit => addImports homes unit (unitReferences unit) := by
  induction units with
  | nil => rfl
  | cons unit rest ih => rw [resolveImports, ih, List.mapM_cons]

/-- The units of a cache are those that its declarations are assigned to, with their imports
resolved, in the order of their paths. -/
theorem units_eq_ok_iff {cache : List (Identity × Declaration)} {results : List OutputUnit} :
    units options layout cache = .ok results ↔ ∃ plain linked,
      assignUnits options layout [] cache = .ok plain ∧
        resolveImports (homes options layout cache) plain = .ok linked ∧
          sortUnits linked = results := by
  rw [units, Result.bind_eq_ok_iff]
  refine exists_congr fun plain => ?_
  rw [Result.bind_eq_ok_iff]
  constructor
  · rintro ⟨first, linked, second, same⟩
    exact ⟨linked, first, second, Except.ok.inj same⟩
  · rintro ⟨linked, first, second, rfl⟩
    exact ⟨first, linked, second, rfl⟩

end TypeContracts.Graph
