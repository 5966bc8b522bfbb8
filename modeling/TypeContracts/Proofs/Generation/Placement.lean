import TypeContracts.Proofs.Generation.Emission
import TypeContracts.Proofs.Graph.Calls
import TypeContracts.Proofs.Graph.CacheOrder
import TypeContracts.Proofs.Result

/-!
# Every declaration has its place

Assigning units takes the declarations of a cache one after another and puts each behind those at
its path (`Graph.heldAt`). Imports and sorting leave the declarations where they are. So the units
of a build are a partition of its cache (`Graph.Partition`): one unit for each path, in the order
of the paths, with the declarations at its path in the order of the cache.

A run writes one text for each unit, under the path of the unit, if every unit can be emitted
(`Generation.placement_of_run`). An accepted graph with a unit that cannot be emitted has no texts
(`Generation.placement_of_run_nowhere`).
-/

set_option autoImplicit false

namespace TypeContracts

open MappingM

namespace Graph

variable {options : Options} {layout : Layout} {cache : List (Identity × Declaration)}

/-! ## Partitions -/

/-- The declarations of a cache that belong at a path, in the order of the cache. -/
def heldAt (options : Options) (layout : Layout) (cache : List (Identity × Declaration))
    (path : String) : List Declaration :=
  (cache.map Prod.snd).filter fun declaration =>
    unitPath options layout declaration.identity declaration = path

/-- The units share out the declarations of a cache by their paths. -/
structure Partition (options : Options) (layout : Layout) (cache : List (Identity × Declaration))
    (units : List OutputUnit) : Prop where
  increasing : (units.map OutputUnit.path).Pairwise (· < ·)
  inhabited : ∀ unit ∈ units, unit.declarations ≠ []
  whole : (units.flatMap OutputUnit.declarations).Perm (cache.map Prod.snd)
  once : ((units.flatMap OutputUnit.declarations).map Declaration.identity).Nodup
  held : ∀ unit ∈ units, unit.declarations = heldAt options layout cache unit.path

theorem heldAt_concat (entry : Identity × Declaration) (path : String) :
    heldAt options layout (cache ++ [entry]) path = heldAt options layout cache path ++
      if unitPath options layout entry.2.identity entry.2 = path then [entry.2] else [] := by
  rw [heldAt, List.map_append, List.filter_append, heldAt, List.map_singleton,
    List.filter_singleton]
  simp

/-- No declaration belongs at a path without a unit. -/
theorem Assigned.heldAt_eq_nil {units : List OutputUnit}
    (assigned : Assigned options layout cache units) {path : String}
    (new : path ∉ units.map OutputUnit.path) : heldAt options layout cache path = [] := by
  rw [heldAt, List.filter_eq_nil_iff]
  intro declaration cached
  rw [decide_eq_true_eq]
  rintro rfl
  obtain ⟨unit, listed, inside⟩ := List.mem_flatMap.mp (assigned.whole.mem_iff.mpr cached)
  exact new (assigned.homed unit listed declaration inside ▸ List.mem_map_of_mem listed)

/-- A declaration that is placed goes behind those that belong at its path. -/
theorem Assigned.held_place {units placed : List OutputUnit}
    (assigned : Assigned options layout cache units)
    (held : ∀ unit ∈ units, unit.declarations = heldAt options layout cache unit.path)
    {declaration : Declaration}
    (done : Graph.place (unitPath options layout declaration.identity declaration) declaration
      units = .ok placed) :
    ∀ unit ∈ placed, unit.declarations =
      heldAt options layout (cache ++ [(declaration.identity, declaration)]) unit.path := by
  -- A unit at another path holds what it has held.
  have apart : ∀ unit ∈ units,
      unitPath options layout declaration.identity declaration ≠ unit.path →
        unit.declarations =
          heldAt options layout (cache ++ [(declaration.identity, declaration)]) unit.path := by
    intro unit listed differ
    rw [heldAt_concat, if_neg differ, List.append_nil]
    exact held unit listed
  rcases place_spec done with ⟨new, rfl⟩ | ⟨front, home, back, rfl, same, _, rfl⟩
  · rw [List.forall_mem_append, List.forall_mem_singleton]
    refine ⟨fun unit listed => apart unit listed fun same => new ?_, ?_⟩
    · exact same ▸ List.mem_map_of_mem listed
    · rw [heldAt_concat, if_pos rfl, assigned.heldAt_eq_nil new]
      rfl
  · have paths := assigned.paths
    rw [List.map_append, List.map_cons, List.nodup_append, List.nodup_cons] at paths
    obtain ⟨_, ⟨behind, _⟩, before⟩ := paths
    simp only [List.forall_mem_append, List.forall_mem_cons] at apart held ⊢
    refine ⟨fun unit listed => apart.1 unit listed fun equal => ?_, ?_, fun unit listed =>
      apart.2.2 unit listed fun equal => ?_⟩
    · exact before unit.path (List.mem_map_of_mem listed) home.path List.mem_cons_self
        (equal.symm.trans same.symm)
    · rw [heldAt_concat, if_pos same.symm, ← held.2.1]
    · exact behind ((same.trans equal) ▸ List.mem_map_of_mem listed)

/-- Assigning units leaves every unit with the declarations at its path, in their order. -/
theorem held_assignUnits {rest : List (Identity × Declaration)}
    (keyed : ∀ entry ∈ rest, entry.2.identity = entry.1) {units assigned : List OutputUnit}
    (before : Assigned options layout cache units)
    (held : ∀ unit ∈ units, unit.declarations = heldAt options layout cache unit.path)
    (done : assignUnits options layout units rest = .ok assigned) :
    ∀ unit ∈ assigned, unit.declarations = heldAt options layout (cache ++ rest) unit.path := by
  induction rest generalizing cache units with
  | nil =>
    cases done
    rwa [List.append_nil]
  | cons entry rest ih =>
    obtain ⟨identity, declaration⟩ := entry
    rw [List.forall_mem_cons] at keyed
    obtain ⟨own, keyed⟩ := keyed
    obtain rfl : declaration.identity = identity := own
    rw [assignUnits] at done
    obtain ⟨placed, first, others⟩ := Result.bind_eq_ok_iff.mp done
    have whole := ih keyed (before.place first) (before.held_place held first) others
    rwa [List.append_assoc] at whole

/-- The units of a cache that is a map are a partition of it. -/
theorem partition_units (keys : (cache.map Prod.fst).Nodup)
    (keyed : ∀ entry ∈ cache, entry.2.identity = entry.1) {results : List OutputUnit}
    (done : units options layout cache = .ok results) :
    Partition options layout cache results := by
  obtain ⟨housed, _⟩ := importsExact_units keys keyed done
  obtain ⟨plain, linked, first, second, rfl⟩ := units_eq_ok_iff.mp done
  have assigned : Assigned options layout cache plain :=
    assigned_assignUnits keyed assigned_nil first
  have held := held_assignUnits keyed assigned_nil (by simp) first
  obtain ⟨_, _, each⟩ :=
    linked_resolveImports (fun unit listed => assigned.nodup_scope listed) second
  have order : (sortUnits linked).Perm linked := List.mergeSort_perm linked _
  refine ⟨?_, housed.inhabited, housed.whole, ?_, fun unit listed => ?_⟩
  · refine (sorted_sortUnits linked).imp₂ (fun first second before differ => ?_) housed.paths
    exact Std.lt_of_le_of_ne before differ
  · have identities : (cache.map Prod.snd).map Declaration.identity = cache.map Prod.fst := by
      rw [List.map_map]
      exact List.map_congr_left keyed
    rw [(housed.whole.map _).nodup_iff, identities]
    exact keys
  · obtain ⟨origin, among, link⟩ := each unit (order.mem_iff.mp listed)
    rw [link.path, link.declarations]
    exact held origin among

variable {Handle Loader : Type} {setting : Setting Handle Loader}

/-- Assigning units leaves the cache of the walk as it is. -/
theorem cache_build (limit : Nat) (roots : List Handle) (start : Builder Loader) :
    (outcome (build setting limit roots) start).2.cache =
      (outcome (walk setting limit roots) start).2.cache := by
  rw [build, outcome_bind]
  rcases outcome (walk setting limit roots) start with ⟨fault | _, builder⟩
  · rfl
  · simp only [outcome_bind, outcome_get]
    cases units setting.options setting.layout builder.cache with
    | error fault => rfl
    | ok results => rfl

/-- The units of a build are a partition of its cache, on a builder that is new or has been kept. -/
theorem partition_build (calls : List (Setting Handle Loader × Call Handle Loader)) (limit : Nat)
    (roots : List Handle) {results : List OutputUnit}
    (built : (outcome (build setting limit roots) (Builder.after calls {})).1 = .ok results) :
    Partition setting.options setting.layout
      (outcome (build setting limit roots) (Builder.after calls {})).2.cache results := by
  have start := (Builder.reaches_after calls {}).consistent Builder.consistent_empty
  have consistent : (outcome (walk setting limit roots) (Builder.after calls {})).2.Consistent :=
    keeps_walk Builder.keep_consistent
      (fun _ _ _ _ consistent => ⟨consistent.nodup, consistent.keyed⟩) limit roots _ start
  rw [cache_build]
  exact partition_units consistent.nodup consistent.keyed (units_of_build built)

end Graph

namespace Generation

open TypeContracts.Graph

variable {Handle Loader : Type}

/-- The units of every build are a partition of what it has declared, and a run has exactly one text
for each unit of its build, under the path of the unit and in the order of the units, when every
unit is emitted; otherwise it has none. -/
theorem placement_of_run (setting : Setting Handle Loader) :
    (∀ (calls : List (Setting Handle Loader × Call Handle Loader)) limit roots results,
        (outcome (build setting limit roots) (Builder.after calls {})).1 = .ok results →
          Partition setting.options setting.layout
            (outcome (build setting limit roots) (Builder.after calls {})).2.cache results) ∧
      ∀ limit roots results, (outcome (build setting limit roots) {}).1 = .ok results →
        ∀ texts, (generateWithin setting limit roots).1 = .ok texts ↔
          List.Forall₂ (fun unit text => text.1 = unit.path ∧
            Emission.emit setting.options unit results = .ok text.2) results texts := by
  refine ⟨fun calls limit roots results built => partition_build calls limit roots built,
    fun limit roots results built texts => ?_⟩
  rw [generateWithin_eq_ok_iff, ← Emission.emitAll_eq_ok_iff]
  constructor
  · rintro ⟨others, built', emitted⟩
    obtain rfl : results = others := Except.ok.inj (built.symm.trans built')
    exact emitted
  · exact fun emitted => ⟨results, built, emitted⟩

/-- The texts of the note and of the user. -/
def noteTexts : List (String × String) :=
  [("Note", "// This file was generated by contractgen. Changes above the marker are overwritten.\n" ++
      "import type \x7b User \x7d from './User';\n" ++
      "import type \x7b Moment \x7d from './lib/moment';\n\n" ++
      "export type Note = \x7b\n    author: User;\n    at: Moment;\n\x7d;\n\n" ++
      "// contractgen's generated content\n"),
    ("User", "// This file was generated by contractgen. Changes above the marker are overwritten.\n" ++
      "export type User = \x7b\x7d;\n\n// contractgen's generated content\n")]

set_option maxRecDepth 100000 in
/-- The note and the user have a unit each, and each unit has its text. -/
theorem placement_of_run_notes :
    Partition notes.options notes.layout (outcome (build notes walkLimit [0]) {}).2.cache noteUnits ∧
      (generate notes [0]).1 = .ok noteTexts := by
  obtain ⟨parted, runs⟩ := placement_of_run notes
  have sorted : Emission.sortImports [.fromUnit "User" "User" "Note",
      .fromPath "Moment" "lib/moment" "Note"] =
        [.fromUnit "User" "User" "Note", .fromPath "Moment" "lib/moment" "Note"] := by cbv
  refine ⟨parted [] walkLimit [0] noteUnits build_notes,
    (runs walkLimit [0] noteUnits build_notes noteTexts).mpr
      (.cons ⟨rfl, ?_⟩ (.cons ⟨rfl, ?_⟩ .nil))⟩
  · rw [Emission.emit, Emission.importLines, sorted]
    decide +kernel
  · decide +kernel

/-- A type that refers to a hand-written type whose path is empty. -/
def nowhere : Setting Nat Nat :=
  { twins with override := .paths [("m.X", ⟨"X", ""⟩)] }

/-- The one unit of the type. -/
def nowhereUnit : OutputUnit :=
  { path := "A",
    declarations := [.interface { fullName := "m.A" } "A"
      [.property "x" (.imported "X" "") false false]],
    imports := [.fromPath "X" "" "A"] }

set_option maxRecDepth 100000 in
/-- The graph is accepted, with one unit. The run has no text for it: an import has no place to
come from. -/
theorem placement_of_run_nowhere :
    (outcome (build nowhere walkLimit [0]) {}).1 = .ok [nowhereUnit] ∧
      ∀ texts, (generate nowhere [0]).1 ≠ .ok texts := by
  have built : (outcome (build nowhere walkLimit [0]) {}).1 = .ok [nowhereUnit] := by cbv
  refine ⟨built, ?_⟩
  intro texts written
  obtain ⟨results, built', emitted⟩ := generateWithin_eq_ok_iff.mp written
  obtain rfl : [nowhereUnit] = results := Except.ok.inj (built.symm.trans built')
  obtain ⟨text, kept⟩ := Emission.exists_emitAll_iff.mp ⟨texts, emitted⟩ nowhereUnit
    (List.mem_singleton_self _)
  have line := Emission.exists_importLines_iff.mp (Emission.exists_emit_iff.mp ⟨text, kept⟩).1 _
    (List.mem_singleton_self _)
  exact (Emission.exists_render_iff.mp line).1 (by decide +kernel)

end Generation

end TypeContracts
