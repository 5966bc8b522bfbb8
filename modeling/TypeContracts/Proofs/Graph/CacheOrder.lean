import Mathlib.Data.List.Sort
import TypeContracts.Proofs.Graph.Imports
import TypeContracts.Proofs.Listing

/-!
# The units of a cache in another order

The units of a cache are told by its entries, in whatever order they were registered
(`Graph.Spread`): there is a unit for every path of a declaration, it holds the declarations at
its path, and it imports what these refer to. So a cache with the same entries in another order
has units as well (`Graph.exists_units`), at the same paths, with the same declarations and the
same imports (`Graph.Spread.rearranged`). Units with one declaration each are the same
(`Graph.Spread.eq`).
-/

set_option autoImplicit false

namespace TypeContracts

namespace OutputUnit

/-- The targets of the imports of a unit, with the imported names. -/
def sources (unit : OutputUnit) : List (String × String) :=
  unit.imports.map fun statement => (statement.target, statement.name)

theorem mem_sources_iff {unit : OutputUnit} {target name : String} :
    (target, name) ∈ unit.sources ↔ unit.importsFrom target name = true := by
  simp [sources, importsFrom]

/-- No name is imported twice into a scope of different names. -/
theorem nodup_sources {unit : OutputUnit} (apart : unit.scope.Nodup) : unit.sources.Nodup := by
  refine .of_map Prod.snd ?_
  rw [sources, List.map_map]
  exact (List.nodup_append.mp apart).2.1

end OutputUnit

namespace Graph

variable {options : Options} {layout : Layout} {cache cache' : List (Identity × Declaration)}
  {homes : Homes}

/-! ## Homes -/

/-- The home of an identity is that of its entry. -/
theorem homes_eq_some_iff (keys : (cache.map Prod.fst).Nodup) {identity : Identity}
    {target name : String} :
    Graph.homes options layout cache identity = some (target, name) ↔
      ∃ declaration, (identity, declaration) ∈ cache ∧
        target = unitPath options layout identity declaration ∧ name = declaration.name := by
  refine ⟨homes_eq_some, ?_⟩
  rintro ⟨declaration, cached, rfl, rfl⟩
  have found : (cache.find? fun entry => entry.1 == identity).isSome = true :=
    List.find?_isSome.mpr ⟨_, cached, by simp⟩
  obtain ⟨entry, first⟩ := Option.isSome_iff_exists.mp found
  have own : entry.1 = identity := by simpa using List.find?_some first
  have same : entry = (identity, declaration) :=
    List.inj_on_of_nodup_map keys (List.mem_of_find?_eq_some first) cached own
  rw [Graph.homes, first, same]
  rfl

/-- Homes do not depend on the order of a cache. -/
theorem homes_perm (order : cache.Perm cache') (keys : (cache.map Prod.fst).Nodup) :
    Graph.homes options layout cache = Graph.homes options layout cache' := by
  have keys' : (cache'.map Prod.fst).Nodup := (order.map Prod.fst).nodup_iff.mp keys
  funext identity
  refine Option.ext fun ⟨target, name⟩ => ?_
  rw [homes_eq_some_iff keys, homes_eq_some_iff keys']
  simp only [order.mem_iff]

/-! ## Assigning units -/

/-- The path and the name of a declaration. -/
def site (options : Options) (layout : Layout) (declaration : Declaration) : String × String :=
  (unitPath options layout declaration.identity declaration, declaration.name)

/-- A declaration can be placed when its name is new at its path. -/
theorem exists_place {path : String} {declaration : Declaration} {units : List OutputUnit}
    (fresh : ∀ unit ∈ units, unit.path = path →
      declaration.name ∉ unit.declarations.map Declaration.name) :
    ∃ placed, place path declaration units = .ok placed := by
  induction units with
  | nil => exact ⟨_, rfl⟩
  | cons unit others ih =>
    rw [List.forall_mem_cons] at fresh
    rw [place]
    split_ifs with here
    · have new : unit.declares declaration.name = false := by
        simpa [OutputUnit.declares] using fresh.1 here
      simp [OutputUnit.addDeclaration, new, bind, Except.bind, pure, Except.pure]
    · obtain ⟨placed, done⟩ := ih fresh.2
      rw [done]
      exact ⟨_, rfl⟩

/-- Different declarations of assigned units have different sites. -/
theorem Assigned.nodup_sites {units : List OutputUnit}
    (assigned : Assigned options layout cache units) :
    ((cache.map Prod.snd).map (site options layout)).Nodup := by
  rw [← (assigned.whole.map _).nodup_iff, List.map_flatMap, List.nodup_flatMap]
  constructor
  · intro unit listed
    refine .of_map Prod.snd ?_
    rw [List.map_map]
    exact assigned.scope unit listed
  · have apart := List.pairwise_map.mp assigned.paths
    refine apart.imp_of_mem fun {unit other} listed listed' differ => ?_
    rw [Function.onFun_apply, List.disjoint_left]
    intro place here there
    obtain ⟨declaration, inside, rfl⟩ := List.mem_map.mp here
    obtain ⟨declaration', inside', same⟩ := List.mem_map.mp there
    refine differ ?_
    rw [assigned.homed unit listed declaration inside,
      assigned.homed other listed' declaration' inside']
    exact (congrArg Prod.fst same).symm

/-- Declarations with different sites can be assigned to units. -/
theorem exists_assignUnits {rest : List (Identity × Declaration)}
    (keyed : ∀ entry ∈ rest, entry.2.identity = entry.1) {units : List OutputUnit}
    (before : Assigned options layout cache units)
    (sites : (((cache ++ rest).map Prod.snd).map (site options layout)).Nodup) :
    ∃ assigned, assignUnits options layout units rest = .ok assigned := by
  induction rest generalizing cache units with
  | nil => exact ⟨units, rfl⟩
  | cons entry rest ih =>
    obtain ⟨identity, declaration⟩ := entry
    rw [List.forall_mem_cons] at keyed
    obtain ⟨own, keyed⟩ := keyed
    obtain rfl : declaration.identity = identity := own
    obtain ⟨placed, done⟩ : ∃ placed, place (unitPath options layout declaration.identity
        declaration) declaration units = .ok placed := by
      refine exists_place fun unit listed here twice => ?_
      obtain ⟨other, inside, named⟩ := List.mem_map.mp twice
      have cached : other ∈ cache.map Prod.snd :=
        before.whole.mem_iff.mp (List.mem_flatMap.mpr ⟨unit, listed, inside⟩)
      have same : site options layout other = site options layout declaration :=
        Prod.ext ((before.homed unit listed other inside).symm.trans here) named
      rw [List.map_append, List.map_append, List.nodup_append] at sites
      refine sites.2.2 _ (List.mem_map.mpr ⟨other, cached, rfl⟩) _ ?_ same
      rw [List.map_cons, List.map_cons]
      exact List.mem_cons_self
    rw [assignUnits, done]
    refine ih keyed (before.place done) ?_
    rwa [List.append_assoc]

/-! ## Resolving imports -/

/-- A name that is taken in a part of a scope of different names is taken by the same import. -/
theorem importsFrom_of_taken {unit result : OutputUnit} (apart : result.scope.Nodup)
    (declared : ∀ name ∈ unit.declarations.map Declaration.name,
      name ∈ result.declarations.map Declaration.name)
    (imported : ∀ statement ∈ unit.imports,
      result.importsFrom statement.target statement.name = true)
    {statement : Import} (fits : result.importsFrom statement.target statement.name = true)
    (taken : (unit.importsName statement.name || unit.declares statement.name) = true) :
    unit.importsFrom statement.target statement.name = true := by
  obtain ⟨_, names, disjoint⟩ := List.nodup_append.mp apart
  obtain ⟨inner, inside, target, name⟩ : ∃ inner ∈ result.imports,
      inner.target = statement.target ∧ inner.name = statement.name := by
    simpa [OutputUnit.importsFrom] using fits
  rcases Bool.or_eq_true_iff.mp taken with imports | declares
  · obtain ⟨other, listed, same⟩ : ∃ other ∈ unit.imports, other.name = statement.name := by
      simpa [OutputUnit.importsName] using imports
    obtain ⟨outer, inside', target', name'⟩ : ∃ outer ∈ result.imports,
        outer.target = other.target ∧ outer.name = other.name := by
      simpa [OutputUnit.importsFrom] using imported other listed
    have equal : inner = outer := List.inj_on_of_nodup_map names inside inside'
      (name.trans (same.symm.trans name'.symm))
    have from' : other.target = statement.target := by rw [← target', ← equal, target]
    rw [OutputUnit.importsFrom, List.any_eq_true]
    exact ⟨other, listed, by simp [from', same]⟩
  · have known : statement.name ∈ unit.declarations.map Declaration.name := by
      simpa [OutputUnit.declares] using declares
    exact absurd name.symm (disjoint _ (declared _ known) _ (List.mem_map_of_mem inside))

/-- Imports can be added when they fit into a scope of different names. -/
theorem exists_addImports {unit result : OutputUnit} {references : List TypeRef}
    (apart : result.scope.Nodup)
    (declared : ∀ name ∈ unit.declarations.map Declaration.name,
      name ∈ result.declarations.map Declaration.name)
    (imported : ∀ statement ∈ unit.imports,
      result.importsFrom statement.target statement.name = true)
    (bound : ∀ reference ∈ references, ∃ need,
      importFor homes unit.path reference = .ok need ∧
        ∀ statement ∈ need, result.importsFrom statement.target statement.name = true) :
    ∃ linked, addImports homes unit references = .ok linked := by
  induction references generalizing unit with
  | nil => exact ⟨unit, rfl⟩
  | cons reference rest ih =>
    rw [List.forall_mem_cons] at bound
    obtain ⟨⟨need, found, met⟩, bound⟩ := bound
    rw [addImports, found]
    cases need with
    | none => exact ih declared imported bound
    | some statement =>
      have fits := met statement rfl
      simp only [bind, Except.bind, OutputUnit.addImport]
      split_ifs with already taken
      · exact ih declared imported bound
      · exact absurd (importsFrom_of_taken apart declared imported fits taken) already
      · refine ih declared ?_ bound
        rw [List.forall_mem_append, List.forall_mem_singleton]
        exact ⟨imported, fits⟩

/-- Imports are resolved when they can be added to each unit. -/
theorem exists_resolveImports {units : List OutputUnit}
    (each : ∀ unit ∈ units, ∃ linked, addImports homes unit (unitReferences unit) = .ok linked) :
    ∃ results, resolveImports homes units = .ok results := by
  rw [resolveImports_eq_mapM]
  exact Result.exists_mapM_eq_ok_iff.mpr each

/-- Each unit with its imports resolved comes from adding them. -/
theorem exists_addImports_of_mem {units results : List OutputUnit}
    (done : resolveImports homes units = .ok results) :
    ∀ result ∈ results, ∃ unit ∈ units,
      addImports homes unit (unitReferences unit) = .ok result := by
  rw [resolveImports_eq_mapM] at done
  exact fun _ member => Result.exists_of_mem_mapM done member

/-! ## The units as told by the entries -/

/-- A unit before its imports are resolved. -/
def bare (unit : OutputUnit) : OutputUnit :=
  { path := unit.path, declarations := unit.declarations }

/-- The unit holds the declarations of the cache at its path, and imports what they refer to. -/
structure Filled (options : Options) (layout : Layout) (cache : List (Identity × Declaration))
    (unit : OutputUnit) : Prop where
  apart : unit.scope.Nodup
  mem_iff : ∀ declaration, declaration ∈ unit.declarations ↔ declaration ∈ cache.map Prod.snd ∧
    unitPath options layout declaration.identity declaration = unit.path
  linked : addImports (Graph.homes options layout cache) (bare unit) (unitReferences unit) =
    .ok unit

/-- There is one unit for each path of a declaration of the cache, in the order of the paths. -/
structure Spread (options : Options) (layout : Layout) (cache : List (Identity × Declaration))
    (units : List OutputUnit) : Prop where
  sorted : (units.map OutputUnit.path).Pairwise (· ≤ ·)
  paths : (units.map OutputUnit.path).Nodup
  mem_iff : ∀ path, path ∈ units.map OutputUnit.path ↔ ∃ declaration ∈ cache.map Prod.snd,
    unitPath options layout declaration.identity declaration = path
  filled : ∀ unit ∈ units, Filled options layout cache unit

/-- Housed units hold the declarations at their paths. -/
theorem Housed.mem_declarations_iff {units : List OutputUnit}
    (housed : Housed options layout cache units) {unit : OutputUnit} (listed : unit ∈ units)
    (declaration : Declaration) :
    declaration ∈ unit.declarations ↔ declaration ∈ cache.map Prod.snd ∧
      unitPath options layout declaration.identity declaration = unit.path := by
  constructor
  · intro inside
    exact ⟨housed.whole.mem_iff.mp (List.mem_flatMap.mpr ⟨unit, listed, inside⟩),
      (housed.homed unit listed declaration inside).symm⟩
  · rintro ⟨cached, here⟩
    obtain ⟨⟨identity, _⟩, member, rfl⟩ := List.mem_map.mp cached
    obtain ⟨home, listed', inside, there⟩ := housed.exists_home member
    rwa [← List.inj_on_of_nodup_map housed.paths listed' listed (there.trans here)]

/-- Housed units are at the paths of the declarations. -/
theorem Housed.mem_paths_iff {units : List OutputUnit}
    (housed : Housed options layout cache units) (path : String) :
    path ∈ units.map OutputUnit.path ↔ ∃ declaration ∈ cache.map Prod.snd,
      unitPath options layout declaration.identity declaration = path := by
  constructor
  · intro member
    obtain ⟨unit, listed, rfl⟩ := List.mem_map.mp member
    obtain ⟨declaration, inside⟩ := List.exists_mem_of_ne_nil _ (housed.inhabited unit listed)
    exact ⟨declaration, housed.whole.mem_iff.mp (List.mem_flatMap.mpr ⟨unit, listed, inside⟩),
      (housed.homed unit listed declaration inside).symm⟩
  · rintro ⟨declaration, cached, rfl⟩
    obtain ⟨⟨identity, _⟩, member, rfl⟩ := List.mem_map.mp cached
    obtain ⟨home, listed, _, there⟩ := housed.exists_home member
    exact List.mem_map.mpr ⟨home, listed, there⟩

/-- Units are sorted by their paths. -/
theorem sorted_sortUnits (units : List OutputUnit) :
    ((sortUnits units).map OutputUnit.path).Pairwise (· ≤ ·) := by
  rw [List.pairwise_map]
  exact Listing.sorted_mergeSort OutputUnit.path units

/-- The units of a cache that is a map are told by its entries. -/
theorem spread_units (keys : (cache.map Prod.fst).Nodup)
    (keyed : ∀ entry ∈ cache, entry.2.identity = entry.1) {results : List OutputUnit}
    (done : units options layout cache = .ok results) : Spread options layout cache results := by
  obtain ⟨housed, exacts⟩ := importsExact_units keys keyed done
  obtain ⟨plain, linked, first, second, rfl⟩ := units_eq_ok_iff.mp done
  have assigned : Assigned options layout cache plain :=
    assigned_assignUnits keyed assigned_nil first
  have order : (sortUnits linked).Perm linked := List.mergeSort_perm linked _
  refine ⟨sorted_sortUnits linked, housed.paths, housed.mem_paths_iff, fun unit listed => ?_⟩
  refine ⟨(exacts unit listed).apart, housed.mem_declarations_iff listed, ?_⟩
  obtain ⟨origin, among, added⟩ :=
    exists_addImports_of_mem second unit (order.mem_iff.mp listed)
  have link := linked_addImports (assigned.nodup_scope among) added
  have same : bare unit = origin := by
    rw [bare, link.path, link.declarations, ← assigned.bare origin among]
  have references : unitReferences unit = unitReferences origin := by
    rw [unitReferences, unitReferences, link.declarations]
  rw [same, references, added]

/-! ## Another order of the cache -/

theorem Filled.scope_bare {unit : OutputUnit} (filled : Filled options layout cache unit) :
    (bare unit).scope.Nodup := by
  rw [OutputUnit.scope, bare, List.map_nil, List.append_nil]
  exact (List.nodup_append.mp filled.apart).1

/-- A cache with units has units in any other order of its entries. -/
theorem exists_units (order : cache.Perm cache') (keys : (cache.map Prod.fst).Nodup)
    (keyed : ∀ entry ∈ cache, entry.2.identity = entry.1) {results : List OutputUnit}
    (done : units options layout cache = .ok results) :
    ∃ results', units options layout cache' = .ok results' := by
  have spread := spread_units keys keyed done
  have keyed' : ∀ entry ∈ cache', entry.2.identity = entry.1 :=
    fun entry member => keyed entry (order.mem_iff.mpr member)
  have sites : ((cache'.map Prod.snd).map (site options layout)).Nodup := by
    rw [← ((order.map _).map _).nodup_iff]
    obtain ⟨plain, _, first, _⟩ := units_eq_ok_iff.mp done
    have assigned : Assigned options layout cache plain :=
      assigned_assignUnits keyed assigned_nil first
    exact assigned.nodup_sites
  obtain ⟨plain, first⟩ := exists_assignUnits keyed' assigned_nil sites
  have assigned : Assigned options layout cache' plain :=
    assigned_assignUnits keyed' assigned_nil first
  obtain ⟨linked, second⟩ : ∃ linked,
      resolveImports (Graph.homes options layout cache') plain = .ok linked := by
    refine exists_resolveImports fun unit listed => ?_
    -- The unit at the same path has a scope that everything fits into.
    obtain ⟨model, among, path⟩ : ∃ model ∈ results, model.path = unit.path := by
      obtain ⟨declaration, cached, same⟩ :=
        (assigned.mem_paths_iff unit.path).mp (List.mem_map_of_mem listed)
      exact List.mem_map.mp ((spread.mem_iff unit.path).mpr
        ⟨declaration, (order.map _).mem_iff.mpr cached, same⟩)
    have filled := spread.filled model among
    have declarations : ∀ declaration ∈ unit.declarations, declaration ∈ model.declarations := by
      intro declaration inside
      obtain ⟨cached, here⟩ := (assigned.mem_declarations_iff listed declaration).mp inside
      exact (filled.mem_iff declaration).mpr
        ⟨(order.map _).mem_iff.mpr cached, here.trans path.symm⟩
    have link := linked_addImports filled.scope_bare filled.linked
    refine exists_addImports filled.apart ?_ ?_ ?_
    · intro name member
      obtain ⟨declaration, inside, rfl⟩ := List.mem_map.mp member
      exact List.mem_map_of_mem (declarations declaration inside)
    · rw [assigned.bare unit listed]
      simp
    · intro reference member
      obtain ⟨declaration, inside, refers⟩ := List.mem_flatMap.mp member
      rw [← homes_perm order keys, ← path]
      exact link.bound reference
        (List.mem_flatMap.mpr ⟨declaration, declarations declaration inside, refers⟩)
  exact ⟨sortUnits linked, units_eq_ok_iff.mpr ⟨plain, linked, first, second, rfl⟩⟩

/-- The units agree up to the order of their declarations and of their imports, which are
compared by target and name. -/
structure Rearranged (unit unit' : OutputUnit) : Prop where
  path : unit.path = unit'.path
  declarations : unit.declarations.Perm unit'.declarations
  sources : unit.sources.Perm unit'.sources

namespace Filled

variable {unit unit' : OutputUnit}

theorem perm_declarations (order : cache.Perm cache')
    (filled : Filled options layout cache unit) (filled' : Filled options layout cache' unit')
    (path : unit.path = unit'.path) : unit.declarations.Perm unit'.declarations := by
  have apart : ∀ {cache unit}, Filled options layout cache unit → unit.declarations.Nodup :=
    fun filled => .of_map _ (List.nodup_append.mp filled.apart).1
  rw [List.perm_ext_iff_of_nodup (apart filled) (apart filled')]
  intro declaration
  rw [filled.mem_iff, filled'.mem_iff, path, (order.map Prod.snd).mem_iff]

theorem sources_subset (order : cache.Perm cache') (keys : (cache.map Prod.fst).Nodup)
    (filled : Filled options layout cache unit) (filled' : Filled options layout cache' unit')
    (path : unit.path = unit'.path)
    (declarations : unit.declarations.Perm unit'.declarations) :
    unit.sources ⊆ unit'.sources := by
  intro ⟨target, name⟩ member
  have link := linked_addImports filled.scope_bare filled.linked
  have link' := linked_addImports filled'.scope_bare filled'.linked
  obtain ⟨statement, listed, same⟩ := List.mem_map.mp member
  cases same
  rcases link.needed statement listed with earlier | ⟨reference, inside, found⟩
  · cases earlier
  · have inside' : reference ∈ unitReferences unit' :=
      (declarations.flatMap_right _).mem_iff.mp inside
    obtain ⟨need, found', met⟩ := link'.bound reference inside'
    rw [← homes_perm order keys, show (bare unit').path = (bare unit).path from path.symm, found]
      at found'
    cases found'
    exact OutputUnit.mem_sources_iff.mpr (met statement rfl)

theorem rearranged (order : cache.Perm cache') (keys : (cache.map Prod.fst).Nodup)
    (filled : Filled options layout cache unit) (filled' : Filled options layout cache' unit')
    (path : unit.path = unit'.path) : Rearranged unit unit' := by
  have declarations := filled.perm_declarations order filled' path
  have keys' : (cache'.map Prod.fst).Nodup := (order.map Prod.fst).nodup_iff.mp keys
  refine ⟨path, declarations, ?_⟩
  rw [List.perm_ext_iff_of_nodup (OutputUnit.nodup_sources filled.apart)
    (OutputUnit.nodup_sources filled'.apart)]
  exact fun source => ⟨fun member => filled.sources_subset order keys filled' path declarations
    member, fun member => filled'.sources_subset order.symm keys' filled path.symm
      declarations.symm member⟩

/-- A unit of one declaration is told by its path. -/
theorem eq (order : cache.Perm cache') (keys : (cache.map Prod.fst).Nodup)
    (filled : Filled options layout cache unit) (filled' : Filled options layout cache' unit')
    (path : unit.path = unit'.path) {declaration : Declaration}
    (alone : unit.declarations = [declaration]) : unit = unit' := by
  have declarations := filled.perm_declarations order filled' path
  rw [alone, List.singleton_perm] at declarations
  have same : bare unit = bare unit' := by rw [bare, bare, path, alone, declarations]
  have references : unitReferences unit = unitReferences unit' := by
    rw [unitReferences, unitReferences, alone, declarations]
  have linked := filled.linked
  rw [same, references, homes_perm order keys, filled'.linked] at linked
  exact (Except.ok.inj linked).symm

end Filled

namespace Spread

variable {results results' : List OutputUnit}

/-- Units of caches with the same entries are at the same paths. -/
theorem paths_eq (order : cache.Perm cache') (spread : Spread options layout cache results)
    (spread' : Spread options layout cache' results') :
    results.map OutputUnit.path = results'.map OutputUnit.path := by
  refine List.Perm.eq_of_pairwise (fun _ _ _ _ => String.le_antisymm) spread.sorted spread'.sorted
    ((List.perm_ext_iff_of_nodup spread.paths spread'.paths).mpr fun path => ?_)
  rw [spread.mem_iff, spread'.mem_iff]
  simp only [(order.map Prod.snd).mem_iff]

/-- Units of caches with the same entries are filled one by one. -/
theorem pairs (order : cache.Perm cache') (spread : Spread options layout cache results)
    (spread' : Spread options layout cache' results') :
    List.Forall₂ (fun unit unit' => unit ∈ results ∧ Filled options layout cache' unit' ∧
      unit.path = unit'.path) results results' := by
  have paths := spread.paths_eq order spread'
  rw [← List.forall₂_eq_eq_eq, List.forall₂_map_left_iff, List.forall₂_map_right_iff] at paths
  have filled : List.Forall₂ (fun unit unit' => Filled options layout cache' unit' ∧
      unit.path = unit'.path) results results' :=
    ((List.forall₂_and_left _ _).mpr ⟨spread'.filled, paths.flip⟩).flip
  exact (List.forall₂_and_left _ _).mpr ⟨fun _ listed => listed, filled⟩

/-- Units of caches with the same entries agree up to order. -/
theorem rearranged (order : cache.Perm cache') (keys : (cache.map Prod.fst).Nodup)
    (spread : Spread options layout cache results)
    (spread' : Spread options layout cache' results') :
    List.Forall₂ Rearranged results results' :=
  (spread.pairs order spread').imp fun unit _ ⟨listed, filled', path⟩ =>
    (spread.filled unit listed).rearranged order keys filled' path

/-- Units of caches with the same entries are the same when each holds one declaration. -/
theorem eq (order : cache.Perm cache') (keys : (cache.map Prod.fst).Nodup)
    (spread : Spread options layout cache results)
    (spread' : Spread options layout cache' results')
    (alone : ∀ unit ∈ results, unit.declarations.length = 1) : results = results' := by
  rw [← List.forall₂_eq_eq_eq]
  refine (spread.pairs order spread').imp fun unit unit' ⟨listed, filled', path⟩ => ?_
  obtain ⟨declaration, single⟩ := List.length_eq_one_iff.mp (alone unit listed)
  exact (spread.filled unit listed).eq order keys filled' path single

end Spread

end Graph

end TypeContracts
