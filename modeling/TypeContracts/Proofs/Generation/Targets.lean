import Mathlib.Data.List.DropRight
import TypeContracts.Generation
import TypeContracts.Proofs.Files.Tree
import TypeContracts.Proofs.UnitPath

/-!
# Where the files of a run stand

The target of a unit lies below the output directory, segment by segment as its path says
(`Generation.target_eq`), so that units with different paths have different files
(`Generation.Plain.resolve_target_inj`).

An output directory may climb with `..`. A location such as `new/../old` leads nowhere
before `new` is a directory, although `old` may be one already. When the part of the output
directory up to its last `..` leads to a directory (`Location.ascent`), making directories
for other targets reveals no file (`Generation.Plain.readText_kept`). An output directory
that never climbs is one of these (`Location.hasDirectory_ascent`).
-/

set_option autoImplicit false

namespace TypeContracts

namespace Location

/-- The beginning of a location up to its last `..`. -/
def ascent (location : Location) : Location :=
  location.withSegments (location.segments.rdropWhile fun segment => segment ≠ "..")

/-- Behind its ascent, a location only leads down. -/
theorem exists_below_ascent (location : Location) :
    ∃ descent, location = location.ascent.below descent ∧ ".." ∉ descent := by
  refine ⟨location.segments.rtakeWhile fun segment => segment ≠ "..", ?_, fun member => ?_⟩
  · rw [ascent, below, segments_withSegments, withSegments_withSegments,
      List.rdropWhile_append_rtakeWhile, withSegments_segments]
  · simpa using List.mem_rtakeWhile_imp member

/-- A location that never climbs has nothing to climb through. -/
theorem hasDirectory_ascent {location : Location} (down : ".." ∉ location.segments)
    (tree : FileTree) : tree.hasDirectory location.ascent = true := by
  have top : location.ascent = location.withSegments [] := by
    rw [ascent, List.rdropWhile_eq_nil_iff.mpr]
    intro segment member
    have : segment ≠ ".." := fun same => down (same ▸ member)
    simpa using this
  rw [top]
  rcases location with segments | ⟨doubled | doubled, segments⟩ <;> rfl

end Location

namespace Generation

/-! ## Targets -/

/-- A unit path in normal form that never climbs. -/
structure Plain (unitPath : String) : Prop where
  normal : ∃ written, unitPath = UnitPath.normalise written
  down : ".." ∉ Text.cut '/' unitPath

/-- The last segment of a file name is kept, and does not climb. -/
theorem fileName_kept (last : List Char) :
    String.ofList (last ++ ['.', 't', 's']) ∉ ["", ".", ".."] := by
  intro member
  have ending : ∀ name ∈ ["", ".", ".."], name.toList.getLast? ≠ some 's' := by decide
  refine ending _ member ?_
  simp

/-- The segments of a file name are those of the path, all kept. -/
theorem Plain.cut_fileName {path : String} (plain : Plain path) :
    ∀ segment ∈ Text.cut '/' (path ++ ".ts"), segment ∉ ["", ".", ".."] := by
  obtain ⟨written, rfl⟩ := plain.normal
  obtain ⟨front, last, spelled, kept, whole⟩ := UnitPath.exists_toList_normalise written
  have clear : ∀ part ∈ front, '/' ∉ part := fun part member => (kept part member).2
  have down := plain.down
  rw [Text.cut, spelled, Text.pieces_glue (by simp) (by simpa [or_imp, forall_and] using
    ⟨clear, whole⟩), List.map_append, List.mem_append, not_or] at down
  have file : (UnitPath.normalise written ++ ".ts").toList =
      Text.glue '/' (front ++ [last ++ ['.', 't', 's']]) := by
    rw [String.toList_append, spelled, Text.glue_concat_append]
    rfl
  have whole' : '/' ∉ last ++ ['.', 't', 's'] := by simpa using whole
  rw [Text.cut, file, Text.pieces_glue (by simp) (by simpa [or_imp, forall_and] using
    ⟨clear, whole⟩), List.map_append, List.forall_mem_append]
  refine ⟨fun segment member => ?_, by simpa using fileName_kept last⟩
  obtain ⟨part, inside, rfl⟩ := List.mem_map.mp member
  have proper := (kept part inside).1
  have climbs : String.ofList part ≠ ".." := fun same => down.1 (same ▸ member)
  simp only [UnitPath.isKept, Bool.and_eq_true, Bool.not_eq_true', List.isEmpty_eq_false_iff,
    bne_iff_ne, ne_eq] at proper
  simpa [← String.toList_inj, climbs] using proper

/-- The target of a unit lies below the output directory as the path of the unit says. -/
theorem Plain.target_eq {path : String} (plain : Plain path) (output : Location) :
    target output path = output.below (Text.cut '/' (path ++ ".ts")) := by
  have kept := plain.cut_fileName
  have spelled : Location.spelled (path ++ ".ts") = Text.cut '/' (path ++ ".ts") := by
    refine List.filter_eq_self.mpr fun segment member => ?_
    have := kept segment member
    simp only [List.mem_cons, not_or] at this
    simp [this]
  rw [target, Location.join, if_neg, spelled, Location.below]
  intro absolute
  have start : ∃ rest, (path ++ ".ts").toList = '/' :: rest := by
    rw [Text.startsWith, Text.dropStart?, Option.isSome_map] at absolute
    cases text : (path ++ ".ts").toList with
    | nil => simp [text, Text.after?] at absolute
    | cons c rest =>
      rw [text] at absolute
      by_cases slash : '/' = c
      · exact ⟨rest, by rw [slash]⟩
      · simp [Text.after?, slash] at absolute
  obtain ⟨rest, text⟩ := start
  have empty : "" ∈ Text.cut '/' (path ++ ".ts") := by
    rw [Text.cut, text, Text.pieces, if_pos rfl]
    simp
  exact kept "" empty (by simp)

/-! ## Different units, different files -/

/-- Behind the ascent of the output directory, a target only leads down. -/
theorem Plain.exists_below_ascent {path : String} (plain : Plain path) (output : Location) :
    ∃ segments, target output path = output.ascent.below segments ∧ ".." ∉ segments := by
  obtain ⟨descent, whole, down⟩ := output.exists_below_ascent
  refine ⟨descent ++ Text.cut '/' (path ++ ".ts"), ?_, ?_⟩
  · rw [plain.target_eq, Location.below_append, ← whole]
  · rw [List.mem_append, not_or]
    exact ⟨down, fun member => plain.cut_fileName _ member (by simp)⟩

/-- Different units have different targets. -/
theorem Plain.target_inj {first second : String} (plain : Plain first) (plain' : Plain second)
    {output : Location} (same : target output first = target output second) :
    first = second := by
  rw [plain.target_eq, plain'.target_eq] at same
  have names := Text.cut_injective (Location.below_injective same)
  exact (String.append_left_inj ".ts").mp names

/-- Targets that lead to the same place are the target of one unit. -/
theorem Plain.resolve_target_inj {first second : String} (plain : Plain first)
    (plain' : Plain second) {tree : FileTree} {output place : Location}
    (resolved : tree.resolve (target output first) = .ok place)
    (resolved' : tree.resolve (target output second) = .ok place) : first = second := by
  rw [plain.target_eq] at resolved
  rw [plain'.target_eq] at resolved'
  obtain ⟨start, reached, further⟩ := FileTree.resolve_below resolved
  obtain ⟨start', reached', further'⟩ := FileTree.resolve_below resolved'
  obtain rfl : start = start' := Except.ok.inj (reached.symm.trans reached')
  have low := FileTree.resolveFrom_below
    (fun member => plain.cut_fileName _ member (by simp)) further
  have low' := FileTree.resolveFrom_below
    (fun member => plain'.cut_fileName _ member (by simp)) further'
  have same := Text.cut_injective (Location.below_injective (low.symm.trans low'))
  exact (String.append_left_inj ".ts").mp same

/-- Where the output directory climbs through directories only, a change of other files
leaves what is read of a target. -/
theorem Plain.readText_kept {path : String} (plain : Plain path) {places : List Location}
    {old new : FileTree} {output : Location} (changed : FileTree.ChangedAt places old new)
    (rooted : old.Rooted) (stands : old.hasDirectory output.ascent = true)
    (apart : ∀ place ∈ places, new.resolve (target output path) ≠ .ok place) :
    (new.readText (target output path)).toOption =
      (old.readText (target output path)).toOption := by
  obtain ⟨segments, low, down⟩ := plain.exists_below_ascent output
  rw [low] at apart ⊢
  exact changed.readText_below rooted stands down apart

end Generation

end TypeContracts
