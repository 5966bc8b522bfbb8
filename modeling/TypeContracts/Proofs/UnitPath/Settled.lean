import TypeContracts.Proofs.UnitPath

/-!
# Paths that normalising leaves alone

Blanks around a path and its extension are taken away before it is cut into segments, and the
segments that are dropped may have stood in front of other blanks or behind another extension. So
the normal form of a path can have an end that normalising takes away. It is left alone exactly
when it has no such end (`UnitPath.IsSettled`, `UnitPath.normalise_normalise_iff`): normalising
only takes characters away (`UnitPath.toList_normalise_sublist`), so that a path that stays as it
is has lost nothing on the way.

A unit is stored under the normal form of its path, and importing brings both paths into normal
form once more. Between settled paths this makes no difference. Otherwise two units with different
paths can be taken for one.
-/

set_option autoImplicit false

namespace TypeContracts.UnitPath

/-! ## What normalising takes away -/

theorem dropExtension_eq_self_iff {path : String} :
    dropExtension path.toList = path.toList ↔ Text.endsWith ".ts" path = false := by
  have reversed : ".ts".toList.reverse = ['s', 't', '.'] := by decide
  rw [dropExtension, Text.endsWith, reversed]
  split
  next front found =>
    have split := Text.after?_eq_some_iff.mp found
    rw [found, Option.isSome_some]
    refine iff_of_false (fun same => ?_) (by simp)
    have length := congrArg List.length split
    rw [← same] at length
    simp only [List.length_reverse, List.length_append, List.length_cons, List.length_nil] at length
    omega
  next missing => simp [missing]

/-- Beside turning backslashes, normalising only takes characters away. -/
theorem toList_normalise_sublist (path : String) :
    (normalise path).toList.Sublist (withSlashes path.toList) := by
  rw [normalise, ofSegments, String.toList_ofList, segments]
  refine (Text.glue_filter_sublist '/' isKept _).trans ?_
  rw [Text.glue_pieces]
  exact (dropExtension_sublist _).trans (Text.trim_sublist _)

theorem withSlashes_normalise (path : String) :
    withSlashes (normalise path).toList = (normalise path).toList :=
  withSlashes_eq_self fun member =>
    notMem_withSlashes _ ((toList_normalise_sublist path).mem member)

/-! ## Settled paths -/

/-- The path has no end that normalising takes away: no white space at either end, and no
extension. -/
def IsSettled (path : String) : Prop :=
  Text.IsTrimmed path.toList ∧ Text.endsWith ".ts" path = false

instance (path : String) : Decidable (IsSettled path) := inferInstanceAs
  (Decidable (Text.IsTrimmed path.toList ∧ Text.endsWith ".ts" path = false))

/-- Settled normal paths have the segments that they are put together from. -/
theorem segments_normalise {path : String} (settled : IsSettled (normalise path)) :
    segments (normalise path).toList = segments path.toList := by
  have cut : segments (normalise path).toList =
      (Text.pieces '/' (Text.glue '/' (segments path.toList))).filter isKept := by
    rw [segments, withSlashes_normalise, Text.trim_eq_self_iff.mpr settled.1,
      dropExtension_eq_self_iff.mpr settled.2, normalise, ofSegments, String.toList_ofList]
  have kept : ∀ segment ∈ segments path.toList, isKept segment = true ∧ '/' ∉ segment :=
    fun _ => isKept_of_mem_segments
  by_cases nothing : segments path.toList = []
  · rw [cut, nothing]
    rfl
  · rw [cut, Text.pieces_glue nothing fun segment member => (kept segment member).2,
      List.filter_eq_self.mpr fun segment member => (kept segment member).1]

/-- A path that normalising leaves alone is settled. -/
theorem isSettled_of_normalise_eq {path : String} (same : normalise path = path) :
    IsSettled path := by
  have slashes : withSlashes path.toList = path.toList := by
    rw [← same, withSlashes_normalise]
  -- Nothing is lost over the whole way, so nothing is lost on any part of it.
  have whole : path.toList.Sublist (dropExtension (Text.trim path.toList)) := by
    have lost := Text.glue_filter_sublist '/' isKept
      (Text.pieces '/' (dropExtension (Text.trim path.toList)))
    rw [Text.glue_pieces] at lost
    have spelled := congrArg String.toList same
    rw [normalise, ofSegments, String.toList_ofList, segments, slashes] at spelled
    rwa [spelled] at lost
  have trimmed : Text.trim path.toList = path.toList :=
    (Text.trim_sublist _).antisymm (whole.trans (dropExtension_sublist _))
  rw [trimmed] at whole
  exact ⟨Text.trim_eq_self_iff.mp trimmed,
    dropExtension_eq_self_iff.mp ((dropExtension_sublist _).antisymm whole)⟩

/-! ## Normalising again -/

/-- Normalising a path twice gives what normalising it once gives exactly when the normal form has
no white space at its ends and no extension. One unit imports another in the same way before and
after both paths are brought into normal form, if these are so, and takes it for itself only if it
has the same path. -/
theorem normalise_normalise_iff (path other : String) :
    (normalise (normalise path) = normalise path ↔ IsSettled (normalise path)) ∧
    (IsSettled (normalise path) → IsSettled (normalise other) →
      resolveImport (normalise path) (normalise other) = resolveImport path other ∧
      ((∃ unit, resolveImport (normalise path) (normalise other) = .error (.selfImport unit)) →
        normalise path = normalise other)) := by
  refine ⟨⟨isSettled_of_normalise_eq, fun settled => ?_⟩, fun settled settled' => ?_⟩
  · rw [normalise_eq_iff, segments_normalise settled]
  · have same : resolveImport (normalise path) (normalise other) = resolveImport path other := by
      rw [resolveImport, resolveImport, segments_normalise settled, segments_normalise settled']
    refine ⟨same, fun ⟨unit, itself⟩ => ?_⟩
    rw [same] at itself
    simp only [resolveImport] at itself
    split_ifs at itself with nothing equal
    · cases itself
    · exact normalise_eq_iff.mpr equal

/-- Two paths with blanks, extensions and dropped segments inside. -/
theorem normalise_normalise_iff_money :
    normalise (normalise " .\\shared//My Money.ts") = normalise " .\\shared//My Money.ts" ∧
      resolveImport (normalise "app/User.ts") (normalise " .\\shared//My Money.ts") =
        .ok "../shared/My Money" := by
  have settled : IsSettled (normalise " .\\shared//My Money.ts") := by decide +kernel
  have settled' : IsSettled (normalise "app/User.ts") := by decide +kernel
  refine ⟨(normalise_normalise_iff _ "app/User.ts").1.mpr settled, ?_⟩
  rw [((normalise_normalise_iff "app/User.ts" _).2 settled' settled).1]
  decide +kernel

/-- A second extension stays in the normal form, and the unit is taken for one without it. -/
theorem normalise_normalise_extension :
    normalise "A.ts.ts" = "A.ts" ∧ normalise (normalise "A.ts.ts") = "A" ∧
      resolveImport (normalise "A") (normalise "A.ts.ts") = .error (.selfImport "A") := by
  decide +kernel

end TypeContracts.UnitPath
