import TypeContracts.Proofs.Generation.Emission
import TypeContracts.Proofs.Graph.CacheOrder
import TypeContracts.Proofs.Graph.RootOrder

/-!
# Runs from the same roots in another order

The result of a run does not depend on the order of its roots, nor on how often a root is
listed. When identities and the names of instantiations tell the reachable types apart, walks from
two lists of the same roots end well together and declare the same, and the units of a cache do not
depend on its order (`Generation.sameResult_of_sameRoots`).

Only the order within units is left to the order of the roots. Where every unit holds one
declaration, the texts are the same, too.
-/

set_option autoImplicit false

namespace TypeContracts

open MappingM

variable {Handle Loader : Type} {setting : Graph.Setting Handle Loader}
  {targets : List (String × HandWritten)} {roots : List Handle}

namespace Graph

/-- A build ends well when its walk does and the declarations can be spread over units. -/
theorem build_eq_ok_iff {limit : Nat} {handles : List Handle} {results : List OutputUnit} :
    (outcome (build setting limit handles) {}).1 = .ok results ↔
      ∃ builder, outcome (walk setting limit handles) {} = (.ok (), builder) ∧
        units setting.options setting.layout builder.cache = .ok results := by
  rw [build, outcome_bind]
  rcases outcome (walk setting limit handles) {} with ⟨fault | _, builder⟩
  · simp
  · simp only [outcome_bind, outcome_get]
    rcases found : units setting.options setting.layout builder.cache with fault | value <;>
      simp [found, settled]

/-- Builds from two lists of the same roots end well together, with units that agree up to the
order of what they hold. Units with one declaration each are the same. -/
theorem exists_build (pointed : setting.override.PointsTo targets)
    (coherent : Coherent setting targets roots) (apart : NamesApart setting targets roots)
    {handles handles' : List Handle} (same : ∀ handle, handle ∈ handles ↔ handle ∈ roots)
    (same' : ∀ handle, handle ∈ handles' ↔ handle ∈ roots) {limit : Nat}
    {results : List OutputUnit}
    (built : (outcome (build setting limit handles) {}).1 = .ok results) :
    ∃ results', (outcome (build setting limit handles') {}).1 = .ok results' ∧
      List.Forall₂ Rearranged results results' ∧
      ((∀ unit ∈ results, unit.declarations.length = 1) → results = results') := by
  obtain ⟨builder, walked, found⟩ := build_eq_ok_iff.mp built
  obtain ⟨builder', walked', order⟩ := exists_walk pointed coherent apart same same' walked
  have consistent : builder.Consistent := by
    have consistent := consistent_walk setting limit handles
    rwa [walked] at consistent
  have consistent' : builder'.Consistent := by
    have consistent := consistent_walk setting limit handles'
    rwa [walked'] at consistent
  obtain ⟨results', found'⟩ := exists_units order consistent.nodup consistent.keyed found
  have spread := spread_units consistent.nodup consistent.keyed found
  have spread' := spread_units consistent'.nodup consistent'.keyed found'
  exact ⟨results', build_eq_ok_iff.mpr ⟨builder', walked', found'⟩,
    spread.rearranged order consistent.nodup spread', spread.eq order consistent.nodup spread'⟩

end Graph

namespace Generation

open TypeContracts.Graph

/-- The result of a run depends on the set of its roots alone. From two lists of the same roots,
builds end well together, with units at the same paths that hold the same declarations and the same
imports; and when every unit holds one declaration, runs have the same texts. -/
theorem sameResult_of_sameRoots (pointed : setting.override.PointsTo targets)
    (coherent : Coherent setting targets roots) (apart : NamesApart setting targets roots)
    {roots' : List Handle} (same : ∀ handle, handle ∈ roots ↔ handle ∈ roots') (limit : Nat) :
    ((∃ results, (outcome (build setting limit roots) {}).1 = .ok results) ↔
        ∃ results, (outcome (build setting limit roots') {}).1 = .ok results) ∧
      (∀ results results', (outcome (build setting limit roots) {}).1 = .ok results →
        (outcome (build setting limit roots') {}).1 = .ok results' →
          List.Forall₂ Rearranged results results') ∧
      ((∀ results, (outcome (build setting limit roots) {}).1 = .ok results →
          ∀ unit ∈ results, unit.declarations.length = 1) →
        ∀ texts, (generateWithin setting limit roots).1 = .ok texts ↔
          (generateWithin setting limit roots').1 = .ok texts) := by
  have listed : ∀ handle, handle ∈ roots ↔ handle ∈ roots := fun _ => Iff.rfl
  have listed' : ∀ handle, handle ∈ roots' ↔ handle ∈ roots := fun handle => (same handle).symm
  refine ⟨⟨?_, ?_⟩, ?_, fun alone texts => ?_⟩
  · rintro ⟨results, built⟩
    obtain ⟨results', built', _⟩ := exists_build pointed coherent apart listed listed' built
    exact ⟨results', built'⟩
  · rintro ⟨results', built'⟩
    obtain ⟨results, built, _⟩ := exists_build pointed coherent apart listed' listed built'
    exact ⟨results, built⟩
  · intro results results' built built'
    obtain ⟨_, again, agree, _⟩ := exists_build pointed coherent apart listed listed' built
    obtain rfl := Except.ok.inj (again.symm.trans built')
    exact agree
  · rw [generateWithin_eq_ok_iff, generateWithin_eq_ok_iff]
    constructor
    · rintro ⟨results, built, emitted⟩
      obtain ⟨results', built', _, equal⟩ :=
        exists_build pointed coherent apart listed listed' built
      exact ⟨results', built', equal (alone results built) ▸ emitted⟩
    · rintro ⟨results', built', emitted⟩
      obtain ⟨results, built, _⟩ := exists_build pointed coherent apart listed' listed built'
      obtain ⟨_, again, _, equal⟩ := exists_build pointed coherent apart listed listed' built
      obtain rfl := Except.ok.inj (again.symm.trans built')
      exact ⟨results, built, (equal (alone results built)).symm ▸ emitted⟩

/-- The author and the book, both of which are roots. -/
def shelf : Setting Nat Nat :=
  { library with describe := fun handle => .ok (if handle = 0 then author else book) }

/-- The book is a member of the author. -/
theorem reachable_shelf {host : Host Nat} (reached : Reachable shelf [] [0, 1] host) :
    Reachable library [] [0] host := by
  have first : Reachable library [] [0] author := .root List.mem_cons_self rfl
  induction reached with
  | @root handle host listed described =>
    simp only [List.mem_cons, List.not_mem_nil, or_false] at listed
    rcases listed with rfl | rfl <;> cases described
    · exact first
    · have list : Reachable library [] [0] books :=
        .member first rfl rfl rfl (List.mem_singleton_self _)
      exact .part list rfl (List.mem_singleton_self _)
  | part reached free inside ih => exact .part ih free inside
  | member reached free kind loaded listed ih => exact .member ih free kind loaded listed

theorem coherent_shelf : Coherent shelf [] [0, 1] where
  agree a b reached reached' same :=
    coherent_library.agree a b (reachable_shelf reached) (reachable_shelf reached') same
  dates host reached := coherent_library.dates host (reachable_shelf reached)
  unreserved host reached := coherent_library.unreserved host (reachable_shelf reached)

/-- The list of books is the only instantiation. -/
theorem namesApart_shelf : NamesApart shelf [] [0, 1] := by
  have instantiated : ∀ host, Reachable shelf [] [0, 1] host → host.arguments ≠ [] →
      host = books := by
    intro host reached arguments
    have inside := reachable_library (reachable_shelf reached)
    simp only [List.mem_cons, List.not_mem_nil, or_false] at inside
    rcases inside with rfl | rfl | rfl | rfl
    · exact absurd rfl arguments
    · exact absurd rfl arguments
    · rfl
    · exact absurd rfl arguments
  intro a b reached reached' arguments arguments' _
  rw [instantiated a reached arguments, instantiated b reached' arguments']

/-- The units of the author and the book. -/
def shelfUnits : List OutputUnit :=
  [{ path := "m/Author",
     declarations := [.interface { fullName := "m.Author" } "Author"
       [.property "books" (.array (.declared { fullName := "m.Book" })) false false]],
     imports := [.fromUnit "Book" "m/Book" "m/Author"] },
   { path := "m/Book",
     declarations := [.interface { fullName := "m.Book" } "Book"
       [.property "author" (.union [.declared { fullName := "m.Author" }, .null]) true false]],
     imports := [.fromUnit "Author" "m/Author" "m/Book"] }]

set_option maxRecDepth 100000 in
theorem build_shelf : (outcome (build shelf walkLimit [0, 1]) {}).1 = .ok shelfUnits := by cbv

/-- The two types have the same texts in either order, and when one of them is listed twice. -/
theorem sameResult_of_sameRoots_shelf : ∃ texts, (generate shelf [0, 1]).1 = .ok texts ∧
    (generate shelf [1, 0, 1]).1 = .ok texts := by
  have pointed : shelf.override.PointsTo [] := .inl ⟨rfl, rfl⟩
  have same : ∀ handle, handle ∈ [0, 1] ↔ handle ∈ [1, 0, 1] := by
    intro handle
    simp only [List.mem_cons, List.not_mem_nil, or_false]
    omega
  have importable : ∀ unit ∈ shelfUnits, Importable unit := by decide +kernel
  obtain ⟨texts, emitted⟩ : ∃ texts, Emission.emitAll shelf.options shelfUnits = .ok texts := by
    refine Emission.exists_emitAll_iff.mpr fun unit listed => ?_
    obtain ⟨exact', proper⟩ := emittable_build pointed build_shelf unit listed
    exact (exact'.exists_emit_iff proper shelf.options).mpr (importable unit listed)
  have generated : (generate shelf [0, 1]).1 = .ok texts :=
    generateWithin_eq_ok_iff.mpr ⟨shelfUnits, build_shelf, emitted⟩
  have alone : ∀ results, (outcome (build shelf walkLimit [0, 1]) {}).1 = .ok results →
      ∀ unit ∈ results, unit.declarations.length = 1 := by
    intro results built
    rw [build_shelf, Except.ok.injEq] at built
    subst built
    decide
  obtain ⟨_, _, result⟩ :=
    sameResult_of_sameRoots pointed coherent_shelf namesApart_shelf same walkLimit
  exact ⟨texts, generated, (result alone texts).mp generated⟩

end Generation

end TypeContracts
