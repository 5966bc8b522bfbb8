import Mathlib.Data.List.Induction
import TypeContracts.Proofs.Text.Beginning
import TypeContracts.Proofs.UnitPath

/-!
# Where import specifiers lead

A specifier is read from the directory of the importing unit, one segment after another: `.`
stays, `..` leaves the last directory, and every other segment goes on (`UnitPath.walk`). In this
reading a specifier is a path like any other. Its segments are a way up, out of the directories
that the two units do not share, and then those of the target that are not shared
(`UnitPath.parts_specifier`).

If no segment of the directory is `..`, each step of the way up undoes one directory, so that the
specifier leads to the shared directory and from there to the target (`UnitPath.walk_specifier`).
The way up is the shortest one, since the directories that are kept are the longest beginning that
both units share (`UnitPath.longestShared_take`). Where the directory contains `..`, a step up does
not undo it, and the specifier leads elsewhere. Yet two targets without `..` never have one
specifier, whatever the directory is (`UnitPath.specifier_inj`).
-/

set_option autoImplicit false

namespace TypeContracts.UnitPath

/-! ## Reading a specifier -/

/-- The segments between the slashes of a text. -/
def parts (text : String) : List Segment := Text.pieces '/' text.toList

/-- The directory of a path: its segments without the last one. -/
def directoryOf (path : String) : List Segment := (parts path).dropLast

/-- The segment that leads to the directory above. -/
def above : Segment := ['.', '.']

/-- The place behind one more segment. Where there is no ordinary directory to leave, the segment
that leads above is kept. -/
def follow (place : List Segment) (segment : Segment) : List Segment :=
  if segment = ['.'] then place
  else if segment ≠ above ∨ place = [] ∨ place.getLast? = some above then place ++ [segment]
  else place.dropLast

/-- Where a text leads from a place. -/
def walk (place : List Segment) (text : String) : List Segment := (parts text).foldl follow place

theorem parts_ofSegments {path : List Segment} (proper : path ≠ [])
    (plain : ∀ segment ∈ path, '/' ∉ segment) : parts (ofSegments path) = path := by
  rw [parts, ofSegments, String.toList_ofList, Text.pieces_glue proper plain]

/-- A normal path that is not empty has the segments that it is put together from. -/
theorem parts_normalise {path : String} (proper : segments path.toList ≠ []) :
    parts (normalise path) = segments path.toList :=
  parts_ofSegments proper fun _ member => (isKept_of_mem_segments member).2

theorem directoryOf_normalise (path : String) :
    directoryOf (normalise path) = (segments path.toList).dropLast := by
  by_cases nothing : segments path.toList = []
  · rw [directoryOf, normalise, nothing]
    rfl
  · rw [directoryOf, parts_normalise nothing]

/-- Ordinary segments are added to the place. -/
theorem foldl_follow_ordinary {down : List Segment} (place : List Segment) (dotless : ['.'] ∉ down)
    (plain : above ∉ down) : down.foldl follow place = place ++ down := by
  induction down generalizing place with
  | nil => simp
  | cons segment rest ih =>
    rw [List.mem_cons, not_or] at dotless plain
    have step : follow place segment = place ++ [segment] := by
      rw [follow, if_neg (Ne.symm dotless.1), if_pos (.inl (Ne.symm plain.1))]
    rw [List.foldl_cons, step, ih _ dotless.2 plain.2, List.append_assoc, List.singleton_append]

/-- So many steps up undo so many ordinary directories. -/
theorem foldl_follow_above (place : List Segment) {behind : List Segment}
    (plain : above ∉ behind) :
    (List.replicate behind.length above).foldl follow (place ++ behind) = place := by
  induction behind using List.reverseRecOn with
  | nil => simp
  | append_singleton front last ih =>
    rw [List.mem_append, List.mem_singleton, not_or] at plain
    have step : follow (place ++ (front ++ [last])) above = place ++ front := by
      have ordinary : ¬ (above ≠ above ∨ place ++ (front ++ [last]) = [] ∨
          (place ++ (front ++ [last])).getLast? = some above) := by
        simpa [← List.append_assoc] using Ne.symm plain.2
      rw [follow, if_neg (by decide), if_neg ordinary, ← List.append_assoc, List.dropLast_concat]
    rw [List.length_append, List.length_singleton, List.replicate_succ, List.foldl_cons, step,
      ih plain.1]

/-! ## The shared directories -/

/-- The longest beginning of two lists of segments. -/
structure LongestShared (shared first second : List Segment) : Prop where
  left : shared <+: first
  right : shared <+: second
  longest : ∀ other, other <+: first → other <+: second → other <+: shared

theorem sharedLength_le (first second : List Segment) :
    sharedLength first second ≤ first.length := by
  induction first generalizing second with
  | nil => simp [sharedLength]
  | cons a as ih =>
    cases second with
    | nil => simp [sharedLength]
    | cons b bs =>
      rw [sharedLength]
      split_ifs with same
      · exact Nat.succ_le_succ (ih bs)
      · exact Nat.zero_le _

theorem longestShared_take (first second : List Segment) :
    LongestShared (first.take (sharedLength first second)) first second := by
  induction first generalizing second with
  | nil => exact ⟨List.prefix_rfl, by simp, fun _ before _ => before⟩
  | cons a as ih =>
    cases second with
    | nil => exact ⟨by simp [sharedLength], by simp [sharedLength], fun _ _ before => by
        simpa [sharedLength] using before⟩
    | cons b bs =>
      rw [sharedLength]
      split_ifs with same
      · subst same
        obtain ⟨left, right, longest⟩ := ih bs
        rw [List.take_succ_cons]
        refine ⟨(List.prefix_cons_inj a).mpr left, (List.prefix_cons_inj a).mpr right, ?_⟩
        rintro (_ | ⟨c, cs⟩) before before'
        · exact List.nil_prefix
        · rw [List.cons_prefix_cons] at before before' ⊢
          exact ⟨before.1, longest cs before.2 before'.2⟩
      · refine ⟨List.nil_prefix, List.nil_prefix, ?_⟩
        rintro (_ | ⟨c, cs⟩) before before'
        · exact List.nil_prefix
        · rw [List.cons_prefix_cons] at before before'
          exact absurd (before.1.symm.trans before'.1) same

/-- A target begins with what its directory shares with another one, and goes on behind it. -/
theorem split_target (directory : List Segment) {target : List Segment} (proper : target ≠ []) :
    target = directory.take (sharedLength directory target.dropLast) ++
        target.drop (sharedLength directory target.dropLast) ∧
      target.drop (sharedLength directory target.dropLast) ≠ [] := by
  have shared := longestShared_take directory target.dropLast
  have length : (directory.take (sharedLength directory target.dropLast)).length =
      sharedLength directory target.dropLast :=
    List.length_take_of_le (sharedLength_le directory target.dropLast)
  constructor
  · have split := List.prefix_iff_eq_append.mp (shared.right.trans (List.dropLast_prefix target))
    rw [length] at split
    exact split.symm
  · have short := shared.right.length_le
    have positive := List.length_pos_of_ne_nil proper
    rw [length, List.length_dropLast] at short
    rw [Ne, List.drop_eq_nil_iff]
    omega

/-! ## The segments of a specifier -/

/-- The way out of so many directories, as it is written. -/
def climb (ascent : Nat) : String :=
  if ascent = 0 then "./" else String.join (List.replicate ascent "../")

theorem startsWith_climb (ascent : Nat) (behind : String) :
    Text.startsWith "./" (climb ascent ++ behind) = true ∨
      Text.startsWith "../" (climb ascent ++ behind) = true := by
  cases ascent with
  | zero => exact .inl (Text.startsWith_append "./" behind)
  | succ ascent =>
    have first : climb (ascent + 1) = "../" ++ String.join (List.replicate ascent "../") := by
      rw [climb, if_neg (Nat.succ_ne_zero ascent), List.replicate_succ, String.join_cons]
    rw [first, String.append_assoc]
    exact .inr (Text.startsWith_append "../" _)

/-- The segments of the way out of so many directories. -/
def climbing (ascent : Nat) : List Segment :=
  if ascent = 0 then [['.']] else List.replicate ascent above

theorem specifier_eq (directory target : List Segment) :
    specifier directory target =
      climb (directory.length - sharedLength directory target.dropLast) ++
        ofSegments (target.drop (sharedLength directory target.dropLast)) := by
  rw [specifier, climb]
  split_ifs <;> rfl

/-- What is written behind a way out is a path that begins with it. -/
theorem climb_append_ofSegments (ascent : Nat) {descent : List Segment} (proper : descent ≠ []) :
    climb ascent ++ ofSegments descent = ofSegments (climbing ascent ++ descent) := by
  have glued : ∀ {part : Segment} {rest : List Segment}, rest ≠ [] →
      Text.glue '/' (part :: rest) = part ++ '/' :: Text.glue '/' rest := by
    intro part rest proper
    obtain ⟨next, others, rfl⟩ := List.exists_cons_of_ne_nil proper
    rfl
  have upward : ∀ count, ofSegments (List.replicate count above ++ descent) =
      String.join (List.replicate count "../") ++ ofSegments descent := by
    intro count
    apply String.toList_injective
    simp only [ofSegments, String.toList_ofList, String.toList_append, String.toList_join]
    induction count with
    | zero => rfl
    | succ count ih =>
      rw [List.replicate_succ, List.cons_append, glued (by simp [proper]), ih,
        List.replicate_succ, List.flatMap_cons]
      rfl
  rw [climb, climbing]
  split_ifs with stays
  · apply String.toList_injective
    simp only [ofSegments, String.toList_append, String.toList_ofList, List.singleton_append,
      glued proper]
    rfl
  · exact (upward ascent).symm

/-- The segments of a specifier are the way out of the directories that are not shared, and those
of the target that are not shared. -/
theorem parts_specifier (directory : List Segment) {target : List Segment} (proper : target ≠ [])
    (plain : ∀ segment ∈ target, '/' ∉ segment) :
    parts (specifier directory target) =
      climbing (directory.length - sharedLength directory target.dropLast) ++
        target.drop (sharedLength directory target.dropLast) := by
  have upward : ∀ ascent, ∀ segment ∈ climbing ascent, '/' ∉ segment := by
    intro ascent segment member
    rw [climbing] at member
    split_ifs at member with stays
    · rw [List.mem_singleton.mp member]
      decide
    · rw [List.eq_of_mem_replicate member]
      decide
  rw [specifier_eq, climb_append_ofSegments _ (split_target directory proper).2,
    parts_ofSegments (by simp [(split_target directory proper).2])]
  rw [List.forall_mem_append]
  exact ⟨upward _, fun segment member => plain segment (List.mem_of_mem_drop member)⟩

/-- A specifier leads from its directory to the target, if no segment of the directory leads
above. -/
theorem walk_specifier {directory target : List Segment} (dotless : ['.'] ∉ directory)
    (plain : above ∉ directory) (proper : target ≠ [])
    (whole : ∀ segment ∈ target, '/' ∉ segment) :
    walk directory (specifier directory target) = target.foldl follow [] := by
  obtain ⟨split, -⟩ := split_target directory proper
  rw [walk, parts_specifier directory proper whole, List.foldl_append]
  generalize sharedLength directory target.dropLast = shared at split ⊢
  have outward : (climbing (directory.length - shared)).foldl follow directory =
      directory.take shared := by
    rw [climbing]
    split_ifs with stays
    · rw [List.take_of_length_le (by omega)]
      rfl
    · have left : above ∉ directory.drop shared := fun member =>
        plain (List.mem_of_mem_drop member)
      have undone := foldl_follow_above (directory.take shared) left
      rwa [List.length_drop, List.take_append_drop] at undone
  have inward : (directory.take shared).foldl follow [] = directory.take shared :=
    foldl_follow_ordinary [] (fun member => dotless (List.mem_of_mem_take member))
      fun member => plain (List.mem_of_mem_take member)
  rw [outward]
  conv_rhs => rw [split, List.foldl_append, inward]

/-- A step up does not undo a directory that leads above. -/
example : walk [above] (specifier [above] [['A']]) = [above, above, ['A']] := by decide

/-- Targets without a segment that leads above have different specifiers. -/
theorem specifier_inj {directory target target' : List Segment} (proper : target ≠ [])
    (proper' : target' ≠ []) (whole : ∀ segment ∈ target, '/' ∉ segment)
    (whole' : ∀ segment ∈ target', '/' ∉ segment) (plain : above ∉ target)
    (plain' : above ∉ target') (same : specifier directory target = specifier directory target') :
    target = target' := by
  obtain ⟨split, -⟩ := split_target directory proper
  obtain ⟨split', -⟩ := split_target directory proper'
  have segments := congrArg parts same
  rw [parts_specifier directory proper whole, parts_specifier directory proper' whole'] at segments
  have short := sharedLength_le directory target.dropLast
  have short' := sharedLength_le directory target'.dropLast
  generalize sharedLength directory target.dropLast = shared at *
  generalize sharedLength directory target'.dropLast = shared' at *
  -- The way out is told from the number of segments that lead above.
  have count : ∀ {ascent shared : Nat} {target : List Segment}, above ∉ target →
      (climbing ascent ++ target.drop shared).count above = ascent := by
    intro ascent shared target plain
    have none : (target.drop shared).count above = 0 :=
      List.count_eq_zero.mpr fun member => plain (List.mem_of_mem_drop member)
    rw [List.count_append, none, climbing]
    split_ifs with stays
    · rw [stays]
      decide
    · simp
  have ascents := congrArg (List.count above) segments
  rw [count plain, count plain'] at ascents
  obtain rfl : shared = shared' := by omega
  rw [split, split', List.append_cancel_left segments]

/-! ## Imports of a unit -/

theorem resolveImport_eq_ok_iff {source target written : String} :
    resolveImport source target = .ok written ↔
      segments target.toList ≠ [] ∧ segments source.toList ≠ segments target.toList ∧
        specifier (segments source.toList).dropLast (segments target.toList) = written := by
  simp only [resolveImport]
  split_ifs with nothing itself
  · simp [nothing]
  · simp [itself]
  · simp [nothing, itself]

/-- Importing fails when the target is the empty path or the unit itself, in normal form. Otherwise
the specifier goes up, out of the directories of the unit that are not shared with the target, and
then down to the target. If no directory of the unit is `..`, it leads from there to the target.
For a given unit, targets without `..` have different specifiers. -/
theorem resolveImport_leads (source target : String) :
    ((∃ fault, resolveImport source target = .error fault) ↔
      normalise target = "" ∨ normalise source = normalise target) ∧
    ∀ written, resolveImport source target = .ok written →
      (above ∉ directoryOf (normalise source) →
        walk (directoryOf (normalise source)) written = walk [] (normalise target)) ∧
      (Text.startsWith "./" written = true ∨ Text.startsWith "../" written = true) ∧
      (∃ shared descent,
        LongestShared shared (directoryOf (normalise source)) (directoryOf (normalise target)) ∧
        parts (normalise target) = shared ++ descent ∧
        written = climb ((directoryOf (normalise source)).length - shared.length) ++
          ofSegments descent) ∧
      ∀ other, above ∉ parts (normalise target) → above ∉ parts (normalise other) →
        resolveImport source other = .ok written → normalise other = normalise target := by
  constructor
  · have resolved := @exists_resolveImport_iff source target
    rw [ne_eq, ne_eq, eq_comm (a := normalise target) (b := normalise source), ← not_or] at resolved
    rw [← not_iff_not, ← resolved]
    cases resolveImport source target <;> simp
  · intro written done
    obtain ⟨proper, -, rfl⟩ := resolveImport_eq_ok_iff.mp done
    have whole : ∀ path : String, ∀ segment ∈ segments path.toList, '/' ∉ segment :=
      fun _ _ member => (isKept_of_mem_segments member).2
    obtain ⟨split, -⟩ := split_target (segments source.toList).dropLast proper
    rw [directoryOf_normalise, directoryOf_normalise, parts_normalise proper]
    refine ⟨fun plain => ?_, ?_, ?_, fun other plain plain' done' => ?_⟩
    · have dotless : ['.'] ∉ (segments source.toList).dropLast := fun member =>
        absurd (isKept_of_mem_segments (List.dropLast_subset _ member)).1 (by decide)
      rw [walk_specifier dotless plain proper (whole target), walk, parts_normalise proper]
    · rw [specifier_eq]
      exact startsWith_climb _ _
    · refine ⟨_, _, longestShared_take _ _, split, ?_⟩
      rw [List.length_take_of_le (sharedLength_le _ _), specifier_eq]
    · obtain ⟨proper', -, same⟩ := resolveImport_eq_ok_iff.mp done'
      rw [parts_normalise proper'] at plain'
      rw [normalise_eq_iff]
      exact specifier_inj proper' proper (whole other) (whole target) plain' plain same

/-- The target leads above itself, behind a directory that it shares with the unit. -/
theorem resolveImport_leads_money :
    resolveImport "app\\models/User" "app/../shared//Money.ts" = .ok "../../shared/Money" ∧
      above ∉ directoryOf (normalise "app\\models/User") ∧
      walk (directoryOf (normalise "app\\models/User")) "../../shared/Money" =
        walk [] (normalise "app/../shared//Money.ts") := by
  have done : resolveImport "app\\models/User" "app/../shared//Money.ts" =
      .ok "../../shared/Money" := by decide +kernel
  have plain : above ∉ directoryOf (normalise "app\\models/User") := by decide +kernel
  exact ⟨done, plain, ((resolveImport_leads _ _).2 _ done).1 plain⟩

end TypeContracts.UnitPath
