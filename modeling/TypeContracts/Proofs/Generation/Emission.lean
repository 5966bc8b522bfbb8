import TypeContracts.Generation
import TypeContracts.Proofs.Emission.Lines
import TypeContracts.Proofs.Graph.Imports
import TypeContracts.Proofs.Graph.Proper
import TypeContracts.Proofs.Result
import TypeContracts.Proofs.UnitPath

/-!
# Emitting the units of a build

The units of a build are put together from proper trees, and every declared type that they
refer to has a declaration. So emission never fails on a declaration. It can only fail on an
import: the paths of units and targets are normal, but they are brought into normal form once
more, and that may change them again. A unit can be emitted exactly when its targets stay
different from it, and from the empty path, under the second normalisation (`Importable`,
`Generation.emission_of_build`).
-/

set_option autoImplicit false

namespace TypeContracts

open MappingM

/-- The targets of a unit are neither empty nor the unit itself when the paths are brought into
normal form. -/
def Importable (unit : OutputUnit) : Prop :=
  ∀ statement ∈ unit.imports, UnitPath.normalise statement.target ≠ "" ∧
    UnitPath.normalise statement.target ≠ UnitPath.normalise unit.path

instance (unit : OutputUnit) : Decidable (Importable unit) :=
  inferInstanceAs (Decidable (∀ statement ∈ unit.imports, _))

namespace Emission

variable {options : Options} {unit : OutputUnit} {units : List OutputUnit}

/-- An import statement is written when its target can be imported. -/
theorem exists_render_iff {statement : Import} :
    (∃ line, statement.render = .ok line) ↔
      UnitPath.normalise statement.target ≠ "" ∧
        UnitPath.normalise statement.target ≠ UnitPath.normalise statement.current := by
  rw [← UnitPath.exists_resolveImport_iff, Import.render]
  constructor
  · rintro ⟨line, rendered⟩
    obtain ⟨specifier, resolved, _⟩ := Result.bind_eq_ok_iff.mp rendered
    exact ⟨specifier, resolved⟩
  · rintro ⟨specifier, resolved⟩
    exact ⟨_, Result.bind_eq_ok_iff.mpr ⟨specifier, resolved, rfl⟩⟩

/-- Imports are written when each of them is. -/
theorem exists_importLines_iff {imports : List Import} :
    (∃ lines, importLines imports = .ok lines) ↔
      ∀ statement ∈ imports, ∃ line, statement.render = .ok line := by
  have order : (sortImports imports).Perm imports := List.mergeSort_perm _ _
  simp only [importLines_eq_ok_iff, Result.exists_mapM_eq_ok_iff, order.mem_iff]

/-- Declarations are written when each of them is. -/
theorem exists_blocks_iff {names : Naming} {declarations : List Declaration} :
    (∃ texts, blocks names declarations = .ok texts) ↔
      ∀ declaration ∈ declarations, ∃ text, declaration.render names = .ok text := by
  simp only [blocks_eq_ok_iff, Result.exists_mapM_eq_ok_iff]

/-- A unit is emitted when its imports and its declarations are written. -/
theorem exists_emit_iff :
    (∃ text, emit options unit units = .ok text) ↔
      (∃ lines, importLines unit.imports = .ok lines) ∧
        ∃ texts, blocks (naming units) unit.declarations = .ok texts := by
  simp only [emit_eq_ok_iff]
  constructor
  · rintro ⟨_, lines, texts, above, below, _⟩
    exact ⟨⟨lines, above⟩, texts, below⟩
  · rintro ⟨⟨lines, above⟩, texts, below⟩
    exact ⟨_, lines, texts, above, below, rfl⟩

/-- The texts of units are those of each of them, under its path. -/
theorem emitAll_eq_ok_iff {texts : List (String × String)} :
    emitAll options units = .ok texts ↔
      List.Forall₂ (fun unit text => text.1 = unit.path ∧
        emit options unit units = .ok text.2) units texts := by
  rw [emitAll, Result.mapM_eq_ok_iff]
  refine iff_of_eq (congrArg (List.Forall₂ · units texts) ?_)
  funext unit text
  rcases emit options unit units with fault | written <;>
    simp [bind, Except.bind, pure, Except.pure, Prod.ext_iff, eq_comm]

/-- All units are emitted when each of them is. -/
theorem exists_emitAll_iff :
    (∃ texts, emitAll options units = .ok texts) ↔
      ∀ unit ∈ units, ∃ text, emit options unit units = .ok text := by
  rw [emitAll, Result.exists_mapM_eq_ok_iff]
  refine forall₂_congr fun unit _ => ?_
  rcases emit options unit units with fault | text <;>
    simp [bind, Except.bind, pure, Except.pure]

end Emission

namespace Graph

open Emission

variable {units : List OutputUnit} {unit : OutputUnit}

/-- The declared types that a unit refers to have names among the units. -/
theorem ImportsExact.named (exact' : ImportsExact units unit) {declaration : Declaration}
    (inside : declaration ∈ unit.declarations) :
    Named (naming units) declaration.references := by
  intro identity reference
  obtain ⟨_, home, listed, other, declares, rfl, _⟩ := exact'.declared identity
    (List.mem_flatMap.mpr ⟨declaration, inside, reference⟩)
  have among : other ∈ (units.flatMap OutputUnit.declarations).reverse :=
    List.mem_reverse.mpr (List.mem_flatMap.mpr ⟨home, listed, declares⟩)
  have found : ((units.flatMap OutputUnit.declarations).reverse.find? fun declaration =>
      declaration.identity == other.identity).isSome = true :=
    List.find?_isSome.mpr ⟨other, among, by simp⟩
  obtain ⟨first, same⟩ := Option.isSome_iff_exists.mp found
  exact ⟨first.name, by rw [naming, same]; rfl⟩

/-- A unit of proper declarations that imports what it needs is emitted when its targets can
be imported. -/
theorem ImportsExact.exists_emit_iff (exact' : ImportsExact units unit)
    (proper : ∀ declaration ∈ unit.declarations, declaration.isProper = true) (options : Options) :
    (∃ text, emit options unit units = .ok text) ↔ Importable unit := by
  have written : ∃ texts, blocks (naming units) unit.declarations = .ok texts :=
    exists_blocks_iff.mpr fun declaration inside =>
      Declaration.exists_render (proper declaration inside) (exact'.named inside)
  rw [Emission.exists_emit_iff, and_iff_left written, exists_importLines_iff]
  refine forall₂_congr fun statement member => ?_
  rw [exists_render_iff, (exact'.needed statement member).1]

variable {Handle Loader : Type} {setting : Setting Handle Loader}
  {targets : List (String × HandWritten)}

/-- The units of a build import what they need and hold proper declarations. -/
theorem emittable_build (pointed : setting.override.PointsTo targets) {limit : Nat}
    {roots : List Handle} {results : List OutputUnit}
    (built : (outcome (build setting limit roots) {}).1 = .ok results) :
    ∀ unit ∈ results, ImportsExact results unit ∧
      ∀ declaration ∈ unit.declarations, declaration.isProper = true := by
  have consistent := consistent_walk setting limit roots
  obtain ⟨housed, exact'⟩ :=
    importsExact_units consistent.nodup consistent.keyed (units_of_build built)
  refine fun unit listed => ⟨exact' unit listed, fun declaration inside => ?_⟩
  have member : declaration ∈ results.flatMap OutputUnit.declarations :=
    List.mem_flatMap.mpr ⟨unit, listed, inside⟩
  obtain ⟨entry, cached, rfl⟩ := List.mem_map.mp (housed.whole.mem_iff.mp member)
  exact proper_walk pointed limit roots entry cached

end Graph

namespace Generation

open TypeContracts.Graph

variable {Handle Loader : Type}

/-- A run has texts when its graph is built and all units are emitted. -/
theorem generateWithin_eq_ok_iff {setting : Setting Handle Loader} {limit : Nat}
    {roots : List Handle} {texts : List (String × String)} :
    (generateWithin setting limit roots).1 = .ok texts ↔
      ∃ results, (outcome (build setting limit roots) {}).1 = .ok results ∧
        Emission.emitAll setting.options results = .ok texts := by
  rw [generateWithin, ← outcome]
  rcases outcome (build setting limit roots) {} with ⟨fault | results, builder⟩
  · simp
  · simp only [Except.ok.injEq, exists_eq_left']
    rcases Emission.emitAll setting.options results with fault | texts' <;> simp

/-- The units of the note and the user. -/
def noteUnits : List OutputUnit :=
  [{ path := "Note",
     declarations := [.interface { fullName := "m.Note" } "Note"
       [.property "author" (.declared { fullName := "m.User" }) false false,
        .property "at" (.imported "Moment" "lib/moment") false false]],
     imports := [.fromUnit "User" "User" "Note", .fromPath "Moment" "lib/moment" "Note"] },
   { path := "User", declarations := [.interface { fullName := "m.User" } "User" []] }]

set_option maxRecDepth 100000 in
theorem build_notes : (outcome (build notes walkLimit [0]) {}).1 = .ok noteUnits := by cbv

/-- A type that refers to a hand-written type, in a module whose path loses its extension
twice when it is brought into normal form twice. -/
def twins : Setting Nat Nat where
  options := {}
  override := .paths [("m.X", ⟨"X", "A.ts.ts"⟩)]
  layout := Layout.perType (some "m")
  describe _ := .ok { kind := .object, fullName := "m.A", name := "A", loader := some 0 }
  source _ := .ok [⟨"x", { kind := .object, fullName := "m.X", name := "X" }⟩]

end Generation

end TypeContracts
