import Mathlib
import TypeContracts.Proofs.Graph.Units
import TypeContracts.Proofs.Graph.Walk

/-!
# The imports of a build

Every reference of a unit is bound: to a declaration of the unit itself, to one of another
unit that is imported under its final name, or to a hand-written module that is imported
under the name of the reference. A unit imports nothing else, and no two names of its
scope are the same (`Graph.ImportsExact`).

The statement is about builds (`Graph.importsExact_build`). The walk makes the cache a map
from identities to declarations, assigning puts each declaration into one unit, and
linking adds to one unit at a time the imports that its references need
(`Graph.linked_addImports`).
-/

set_option autoImplicit false

namespace TypeContracts

/-! ## Scopes -/

namespace OutputUnit

/-- The names of a unit: those of its declarations and those of its imports. -/
def scope (unit : OutputUnit) : List String :=
  unit.declarations.map Declaration.name ++ unit.imports.map Import.name

/-- How many imports of a unit have the target and the name. -/
def importCount (unit : OutputUnit) (target name : String) : Nat :=
  unit.imports.countP fun statement => statement.target == target && statement.name == name

/-- In a scope of different names, what is imported is imported once. -/
theorem importCount_eq_one {unit : OutputUnit} (apart : unit.scope.Nodup)
    {target name : String} (imported : unit.importsFrom target name = true) :
    unit.importCount target name = 1 := by
  have positive : 0 < unit.importCount target name := by
    rw [importCount, List.countP_pos_iff]
    simpa [importsFrom] using imported
  have one : unit.importCount target name ≤ (unit.imports.map Import.name).count name := by
    rw [importCount, List.count, List.countP_map]
    exact List.countP_mono_left fun statement _ both => (Bool.and_eq_true_iff.mp both).2
  have most := List.nodup_iff_count.mp (List.nodup_append.mp apart).2.1 name
  omega

/-- Adding an import either finds it there or gives the scope one more name. -/
theorem addImport_spec {unit result : OutputUnit} {statement : Import}
    (done : unit.addImport statement = .ok result) :
    (result = unit ∧ unit.importsFrom statement.target statement.name = true) ∨
      (statement.name ∉ unit.scope ∧
        result = { unit with imports := unit.imports ++ [statement] }) := by
  unfold addImport at done
  split_ifs at done with already taken
  · cases done
    exact .inl ⟨rfl, already⟩
  · cases done
    refine .inr ⟨?_, rfl⟩
    simpa [scope, importsName, declares, not_or, and_comm] using taken

end OutputUnit

namespace Graph

open MappingM

/-! ## Linking one unit -/

/-- A unit is linked when its scope holds different names, every reference has the import
that it needs, and every import beyond the earlier ones is needed by a reference. -/
structure Linked (homes : Homes) (unit result : OutputUnit) (references : List TypeRef) :
    Prop where
  path : result.path = unit.path
  declarations : result.declarations = unit.declarations
  apart : result.scope.Nodup
  kept : ∀ statement ∈ unit.imports, statement ∈ result.imports
  needed : ∀ statement ∈ result.imports, statement ∈ unit.imports ∨
    ∃ reference ∈ references, importFor homes unit.path reference = .ok (some statement)
  bound : ∀ reference ∈ references, ∃ need, importFor homes unit.path reference = .ok need ∧
    ∀ statement ∈ need, result.importsFrom statement.target statement.name = true

theorem importsFrom_of_kept {unit result : OutputUnit}
    (kept : ∀ statement ∈ unit.imports, statement ∈ result.imports) {target name : String}
    (imported : unit.importsFrom target name = true) : result.importsFrom target name = true := by
  simp only [OutputUnit.importsFrom, List.any_eq_true] at imported ⊢
  exact imported.imp fun statement found => ⟨kept statement found.1, found.2⟩

/-- A unit is linked when it is linked from a state behind the import of its first
reference. -/
theorem Linked.cons {homes : Homes} {unit middle result : OutputUnit} {reference : TypeRef}
    {rest : List TypeRef} {need : Option Import} (linked : Linked homes middle result rest)
    (path : middle.path = unit.path) (declarations : middle.declarations = unit.declarations)
    (grown : ∀ statement ∈ unit.imports, statement ∈ middle.imports)
    (found : importFor homes unit.path reference = .ok need)
    (fresh : ∀ statement ∈ middle.imports, statement ∈ unit.imports ∨ statement ∈ need)
    (met : ∀ statement ∈ need, middle.importsFrom statement.target statement.name = true) :
    Linked homes unit result (reference :: rest) where
  path := linked.path.trans path
  declarations := linked.declarations.trans declarations
  apart := linked.apart
  kept statement member := linked.kept statement (grown statement member)
  needed statement member := by
    rcases linked.needed statement member with earlier | ⟨other, later, found'⟩
    · rcases fresh statement earlier with old | new
      · exact .inl old
      · rw [Option.mem_def] at new
        exact .inr ⟨reference, List.mem_cons_self, new ▸ found⟩
    · exact .inr ⟨other, List.mem_cons_of_mem _ later, path ▸ found'⟩
  bound := by
    rw [List.forall_mem_cons]
    refine ⟨⟨need, found, fun statement member => ?_⟩, path ▸ linked.bound⟩
    exact importsFrom_of_kept linked.kept (met statement member)

/-- Adding the imports of references links the unit. -/
theorem linked_addImports {homes : Homes} {unit result : OutputUnit} {references : List TypeRef}
    (apart : unit.scope.Nodup) (done : addImports homes unit references = .ok result) :
    Linked homes unit result references := by
  induction references generalizing unit with
  | nil =>
    cases done
    exact ⟨rfl, rfl, apart, fun _ member => member, fun _ member => .inl member, by simp⟩
  | cons reference rest ih =>
    rw [addImports] at done
    obtain ⟨need, found, behind⟩ := Result.bind_eq_ok_iff.mp done
    cases need with
    | none =>
      exact (ih apart behind).cons rfl rfl (fun _ member => member) found (fun _ => .inl) (by simp)
    | some statement =>
      obtain ⟨middle, added, others⟩ := Result.bind_eq_ok_iff.mp behind
      rcases OutputUnit.addImport_spec added with ⟨rfl, already⟩ | ⟨fresh, rfl⟩
      · exact (ih apart others).cons rfl rfl (fun _ member => member) found (fun _ => .inl)
          (by simpa using already)
      · have apart' : ({ unit with imports := unit.imports ++ [statement] } :
            OutputUnit).scope.Nodup := by
          rw [OutputUnit.scope, List.map_append, List.map_singleton, ← List.append_assoc,
            ← List.concat_eq_append]
          exact .concat fresh apart
        refine (ih apart' others).cons rfl rfl (fun _ => List.mem_append_left _) found ?_ ?_
        · simp [eq_comm]
        · simp [OutputUnit.importsFrom]

/-- Linking all units links each of them on its own, and leaves paths and declarations as
they are. -/
theorem linked_resolveImports {homes : Homes} {units results : List OutputUnit}
    (apart : ∀ unit ∈ units, unit.scope.Nodup)
    (done : resolveImports homes units = .ok results) :
    results.map OutputUnit.path = units.map OutputUnit.path ∧
      results.flatMap OutputUnit.declarations = units.flatMap OutputUnit.declarations ∧
      ∀ result ∈ results, ∃ unit ∈ units, Linked homes unit result (unitReferences unit) := by
  rw [resolveImports_eq_mapM, Result.mapM_eq_ok_iff] at done
  induction done with
  | nil => exact ⟨rfl, rfl, by simp⟩
  | @cons unit result rest results first _ ih =>
    rw [List.forall_mem_cons] at apart
    have linked := linked_addImports apart.1 first
    obtain ⟨paths, declarations, each⟩ := ih apart.2
    refine ⟨?_, ?_, ?_⟩
    · rw [List.map_cons, List.map_cons, linked.path, paths]
    · rw [List.flatMap_cons, List.flatMap_cons, linked.declarations, declarations]
    · rw [List.forall_mem_cons]
      refine ⟨⟨unit, List.mem_cons_self, linked⟩, fun other member => ?_⟩
      obtain ⟨origin, listed, linked'⟩ := each other member
      exact ⟨origin, List.mem_cons_of_mem _ listed, linked'⟩

/-! ## Homes of declarations -/

variable {options : Options} {layout : Layout} {cache : List (Identity × Declaration)}

/-- Without imports, the scope of an assigned unit is that of its declarations. -/
theorem Assigned.nodup_scope {units : List OutputUnit}
    (assigned : Assigned options layout cache units) {unit : OutputUnit} (listed : unit ∈ units) :
    unit.scope.Nodup := by
  rw [OutputUnit.scope, assigned.bare unit listed, List.map_nil, List.append_nil]
  exact assigned.scope unit listed

/-- A home is the path and the name of a declaration of the cache. -/
theorem homes_eq_some {identity : Identity} {target name : String}
    (found : homes options layout cache identity = some (target, name)) :
    ∃ declaration, (identity, declaration) ∈ cache ∧
      target = unitPath options layout identity declaration ∧ name = declaration.name := by
  obtain ⟨entry, first, same⟩ := Option.map_eq_some_iff.mp found
  have own : entry.1 = identity := by simpa using List.find?_some first
  obtain ⟨path, named⟩ := Prod.mk.inj same
  rw [own] at path
  exact ⟨entry.2, own ▸ List.mem_of_find?_eq_some first, path.symm, named.symm⟩

/-- An identity of the cache is declared exactly once in its units. -/
theorem countP_declarations (keys : (cache.map Prod.fst).Nodup)
    (keyed : ∀ entry ∈ cache, entry.2.identity = entry.1) {units : List OutputUnit}
    (housed : Housed options layout cache units) {identity : Identity}
    {declaration : Declaration} (cached : (identity, declaration) ∈ cache) :
    (units.flatMap OutputUnit.declarations).countP (fun d => d.identity == identity) = 1 := by
  have member : identity ∈ cache.map Prod.fst := List.mem_map.mpr ⟨_, cached, rfl⟩
  rw [housed.whole.countP_eq, List.countP_map]
  calc cache.countP ((fun d => d.identity == identity) ∘ Prod.snd)
      = cache.countP ((· == identity) ∘ Prod.fst) := by
        refine List.countP_congr fun entry listed => ?_
        simp only [Function.comp_apply, keyed entry listed]
    _ = (cache.map Prod.fst).count identity := by rw [List.count, List.countP_map]
    _ = 1 := List.nodup_iff_count_eq_one.mp keys identity member

/-! ## Imports of a build -/

/-- A unit imports exactly what its references need among the given units. -/
structure ImportsExact (units : List OutputUnit) (unit : OutputUnit) : Prop where
  apart : unit.scope.Nodup
  declared : ∀ identity, .declared identity ∈ unitReferences unit →
    (units.flatMap OutputUnit.declarations).countP (fun d => d.identity == identity) = 1 ∧
      ∃ home ∈ units, ∃ declaration ∈ home.declarations, declaration.identity = identity ∧
        (home = unit ∨ unit.importCount home.path declaration.name = 1)
  imported : ∀ name written, .imported name written ∈ unitReferences unit →
    UnitPath.normalise written ≠ unit.path →
      unit.importCount (UnitPath.normalise written) name = 1
  needed : ∀ statement ∈ unit.imports,
    statement.current = unit.path ∧ statement.target ≠ unit.path ∧
      ((∃ home ∈ units, ∃ declaration ∈ home.declarations,
          .declared declaration.identity ∈ unitReferences unit ∧
            statement = .fromUnit declaration.name home.path unit.path) ∨
        ∃ name written, .imported name written ∈ unitReferences unit ∧
          statement = .fromPath name (UnitPath.normalise written) unit.path)

/-- A declared type that a unit may refer to is declared in one of the units, and is imported from
there if that is another one. -/
theorem importFor_declared (keyed : ∀ entry ∈ cache, entry.2.identity = entry.1)
    {units : List OutputUnit} (housed : Housed options layout cache units) {path : String}
    {identity : Identity} {need : Option Import}
    (found : importFor (homes options layout cache) path (.declared identity) = .ok need) :
    ∃ declaration, (declaration.identity, declaration) ∈ cache ∧
      declaration.identity = identity ∧
      ∃ house ∈ units, declaration ∈ house.declarations ∧
        need = if house.path = path then none
          else some (.fromUnit declaration.name house.path path) := by
  rw [importFor] at found
  rcases home : homes options layout cache identity with _ | ⟨target, name⟩ <;> rw [home] at found
  · cases found
  obtain ⟨declaration, cached, rfl, rfl⟩ := homes_eq_some home
  obtain rfl : declaration.identity = identity := keyed _ cached
  obtain ⟨house, among, inside, same⟩ := housed.exists_home cached
  refine ⟨declaration, cached, rfl, house, among, inside, ?_⟩
  rw [same]
  exact (Except.ok.inj found).symm

/-- A linked unit of a housed cache imports exactly what its references need. -/
theorem importsExact_of_linked (keys : (cache.map Prod.fst).Nodup)
    (keyed : ∀ entry ∈ cache, entry.2.identity = entry.1) {units : List OutputUnit}
    (housed : Housed options layout cache units) {origin unit : OutputUnit}
    (listed : unit ∈ units) (bare : origin.imports = [])
    (linked : Linked (homes options layout cache) origin unit (unitReferences origin)) :
    ImportsExact units unit := by
  have same : unitReferences origin = unitReferences unit := by
    rw [unitReferences, unitReferences, linked.declarations]
  have bound := linked.bound
  have needed := linked.needed
  rw [same, ← linked.path] at bound needed
  refine ⟨linked.apart, ?_, ?_, ?_⟩
  · intro identity reference
    obtain ⟨need, found, met⟩ := bound _ reference
    obtain ⟨declaration, cached, rfl, house, among, inside, rfl⟩ :=
      importFor_declared keyed housed found
    refine ⟨countP_declarations keys keyed housed cached, house, among, declaration, inside,
      rfl, ?_⟩
    by_cases here : house.path = unit.path
    · exact .inl (List.inj_on_of_nodup_map housed.paths among listed here)
    · rw [if_neg here] at met
      exact .inr (OutputUnit.importCount_eq_one linked.apart (met _ rfl))
  · intro name written reference away
    obtain ⟨need, found, met⟩ := bound _ reference
    rw [importFor] at found
    generalize UnitPath.normalise written = target at away found ⊢
    simp only [if_neg away, Except.ok.injEq] at found
    exact OutputUnit.importCount_eq_one linked.apart (met _ found.symm)
  · intro statement member
    rcases needed statement member with earlier | ⟨reference, inside, found⟩
    · rw [bare] at earlier
      cases earlier
    · cases reference with
      | declared identity =>
        obtain ⟨declaration, _, rfl, house, among, inside', need⟩ :=
          importFor_declared keyed housed found
        split_ifs at need with here
        · obtain rfl := Option.some.inj need
          exact ⟨rfl, here, .inl ⟨house, among, declaration, inside', inside, rfl⟩⟩
      | imported name written =>
        simp only [importFor, Except.ok.injEq] at found
        split_ifs at found with here
        · obtain rfl := Option.some.inj found
          exact ⟨rfl, here, .inr ⟨name, written, inside, rfl⟩⟩
      | _ => cases found

/-- The units of a cache that is a map are housed and import what they need. -/
theorem importsExact_units (keys : (cache.map Prod.fst).Nodup)
    (keyed : ∀ entry ∈ cache, entry.2.identity = entry.1) {results : List OutputUnit}
    (done : units options layout cache = .ok results) :
    Housed options layout cache results ∧ ∀ unit ∈ results, ImportsExact results unit := by
  obtain ⟨plain, linked, first, second, rfl⟩ := units_eq_ok_iff.mp done
  have assigned : Assigned options layout cache plain :=
    assigned_assignUnits keyed assigned_nil first
  obtain ⟨paths, declarations, each⟩ :=
    linked_resolveImports (fun unit listed => assigned.nodup_scope listed) second
  have order : (sortUnits linked).Perm linked := List.mergeSort_perm linked _
  have housed : Housed options layout cache linked := by
    refine ⟨paths ▸ assigned.paths, declarations ▸ assigned.whole, ?_, ?_⟩
    · intro unit member declaration inside
      obtain ⟨origin, listed, link⟩ := each unit member
      rw [link.path]
      exact assigned.homed origin listed declaration (link.declarations ▸ inside)
    · intro unit member
      obtain ⟨origin, listed, link⟩ := each unit member
      exact link.declarations ▸ assigned.inhabited origin listed
  refine ⟨housed.perm order, fun unit member => ?_⟩
  obtain ⟨origin, listed, link⟩ := each unit (order.mem_iff.mp member)
  exact importsExact_of_linked keys keyed (housed.perm order) member (assigned.bare origin listed)
    link

variable {Handle Loader : Type}

/-- A build that ends well ends with the units of the cache of its walk. -/
theorem units_of_build {setting : Setting Handle Loader} {limit : Nat} {roots : List Handle}
    {start : Builder Loader} {results : List OutputUnit}
    (built : (outcome (build setting limit roots) start).1 = .ok results) :
    units setting.options setting.layout (outcome (walk setting limit roots) start).2.cache =
      .ok results := by
  rw [build, outcome_bind] at built
  rcases walked : outcome (walk setting limit roots) start with ⟨fault | _, builder⟩ <;>
    rw [walked] at built
  · cases built
  simp only [outcome_bind, outcome_get] at built
  cases found : units setting.options setting.layout builder.cache with
  | error fault => simp [found, settled] at built
  | ok value => simpa [found, settled, outcome_bind] using built

/-- The units of a build have different paths, and each imports exactly what its references
need. -/
theorem importsExact_build (setting : Setting Handle Loader) (limit : Nat) (roots : List Handle)
    {results : List OutputUnit}
    (built : (outcome (build setting limit roots) {}).1 = .ok results) :
    (results.map OutputUnit.path).Nodup ∧ ∀ unit ∈ results, ImportsExact results unit := by
  have consistent := consistent_walk setting limit roots
  have found := importsExact_units consistent.nodup consistent.keyed (units_of_build built)
  exact ⟨found.1.paths, found.2⟩

/-- A note type that refers to a user type and to a hand-written type. -/
def notes : Setting Nat Nat where
  options := {}
  override := .paths [("m.Moment", ⟨"Moment", "lib/moment"⟩)]
  layout := Layout.perType (some "m")
  describe _ := .ok { kind := .object, fullName := "m.Note", name := "Note", loader := some 0 }
  source _ := .ok
    [⟨"author", { kind := .object, fullName := "m.User", name := "User" }⟩,
     ⟨"at", { kind := .object, fullName := "m.Moment", name := "Moment" }⟩]

set_option maxRecDepth 100000 in
/-- The unit of the note imports the user and the hand-written type, and nothing else. -/
theorem importsExact_build_notes :
    ∃ results, (outcome (build notes 5 [0]) {}).1 = .ok results ∧
      (results.map OutputUnit.path).Nodup ∧ ∀ unit ∈ results, ImportsExact results unit := by
  have built : (outcome (build notes 5 [0]) {}).1 = .ok
      [{ path := "Note",
         declarations := [.interface { fullName := "m.Note" } "Note"
           [.property "author" (.declared { fullName := "m.User" }) false false,
            .property "at" (.imported "Moment" "lib/moment") false false]],
         imports := [.fromUnit "User" "User" "Note", .fromPath "Moment" "lib/moment" "Note"] },
       { path := "User", declarations := [.interface { fullName := "m.User" } "User" []] }] := by
    cbv
  exact ⟨_, built, importsExact_build notes 5 [0] built⟩

end Graph

end TypeContracts
