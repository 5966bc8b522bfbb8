import TypeContracts.Proofs.Generation.Emission
import TypeContracts.Proofs.Generation.Writes

/-!
# The files of a run

A run that stops in the graph touches no file. A run that ends well reports every unit
once, and touches no file but those that it reports as written (`Generation.Isolated`). What
it reports of a unit is decided by the text of the unit and by the text of its file before
the run. This needs the output directory to climb through directories only, since a
directory that a run makes may reveal files that were there before.

When the texts end with their first marker line, the same run again touches nothing
(`Generation.Settled`).
-/

set_option autoImplicit false

namespace TypeContracts.Generation

open Emission

variable {options : Options} {output : Location}

/-! ## Texts -/

variable {Handle Loader : Type}

/-- The targets of units, in their order. -/
def targets (output : Location) (texts : List (String × String)) : List Location :=
  texts.map fun unit => target output unit.1

variable {entries : List Entry} {old new : FileTree}

theorem mem_filed {verdict : Option WriteStatus} {location : Location} :
    location ∈ filed output entries verdict ↔
      ∃ entry ∈ entries, entry.verdict = verdict ∧ target output entry.path = location := by
  simp only [filed, List.mem_map, List.mem_filter, decide_eq_true_eq, and_assoc]

/-- Every entry is filed under its verdict, and under no other. -/
theorem filed_perm (output : Location) (entries : List Entry) :
    (filed output entries (some .created) ++ filed output entries (some .updated) ++
      filed output entries (some .unchanged) ++ filed output entries none).Perm
        (targets output (entries.map Entry.unit)) := by
  rw [List.perm_iff_count]
  intro location
  induction entries with
  | nil => rfl
  | cons entry entries ih =>
    simp only [targets, List.map_cons, List.count_append, List.count_cons, Entry.unit] at ih ⊢
    rcases verdict : entry.verdict with _ | _ | _ | _ <;>
      simp only [filed_cons, verdict, reduceCtorEq, if_true, if_false, List.nil_append,
        List.cons_append, List.count_cons, Option.some.injEq] <;> omega

/-- Entries that lead to the same place are the same. -/
theorem Apart.eq_of_resolve (apart : Apart entries) {first second : Entry}
    (listed : first ∈ entries) (listed' : second ∈ entries) {tree : FileTree} {place : Location}
    (resolved : tree.resolve (target output first.path) = .ok place)
    (resolved' : tree.resolve (target output second.path) = .ok place) : first = second :=
  List.inj_on_of_nodup_map apart.nodup listed listed'
    ((apart.plain first listed).resolve_target_inj (apart.plain second listed') resolved resolved')

/-- Entries with the same target are the same. -/
theorem Apart.eq_of_target (apart : Apart entries) {first second : Entry}
    (listed : first ∈ entries) (listed' : second ∈ entries)
    (same : target output first.path = target output second.path) : first = second :=
  List.inj_on_of_nodup_map apart.nodup listed listed'
    ((apart.plain first listed).target_inj (apart.plain second listed') same)

/-- Different units have different targets. -/
theorem Apart.nodup_targets (apart : Apart entries) :
    (targets output (entries.map Entry.unit)).Nodup := by
  have nodup : entries.Nodup := .of_map Entry.path apart.nodup
  rw [targets, List.map_map]
  exact nodup.map_on fun first listed second listed' => apart.eq_of_target listed listed'

/-! ## Isolation -/

/-- The verdict on a unit, from its text and the text of its file. -/
def verdictOn (options : Options) (output : Location) (tree : FileTree)
    (unit : String × String) : Option WriteStatus :=
  (outcome options (tree.readText (target output unit.1)).toOption unit.2).1

/-- A run reports every unit once, and leaves all files alone but those that it reports as
written. What it reports of a unit, and what the file holds then, depends on the text of the
unit and of the file before. -/
structure Isolated (options : Options) (output : Location) (texts : List (String × String))
    (old new : FileTree) (report : Report) : Prop where
  apart : (targets output texts).Nodup
  listed : (report.created ++ report.updated ++ report.unchanged ++ report.conflicts).Perm
    (targets output texts)
  verdicts : old.hasDirectory output.ascent = true → ∀ verdict, report.under verdict =
    targets output (texts.filter fun unit => verdictOn options output old unit = verdict)
  holds : old.hasDirectory output.ascent = true → ∀ unit ∈ texts,
    new.readText (target output unit.1) =
      .ok (outcome options (old.readText (target output unit.1)).toOption unit.2).2
  kept : ∀ location ∈ report.unchanged ++ report.conflicts, ∃ place content,
    new.resolve location = .ok place ∧ old.entry? place = some (.file content) ∧
      new.entry? place = some (.file content)
  elsewhere : ∀ place, (∀ location ∈ report.written, new.resolve location ≠ .ok place) →
    ∀ content, new.entry? place = some (.file content) ↔ old.entry? place = some (.file content)

/-- A run of writes leaves a place alone that is the target of no written entry. -/
theorem Writes.file_iff (writes : Writes options output old entries new) {place : Location}
    (untouched : ∀ entry ∈ entries, IsWritten entry.verdict →
      new.resolve (target output entry.path) ≠ .ok place) (content : Content) :
    new.entry? place = some (.file content) ↔ old.entry? place = some (.file content) := by
  obtain ⟨places, changed, written⟩ := writes.changedAt
  refine changed.file_iff (fun member => ?_) content
  obtain ⟨entry, listed, touched, resolved⟩ := written place member
  exact untouched entry listed touched resolved

/-- A run of writes is isolated. -/
theorem Writes.isolated (writes : Writes options output old entries new) (apart : Apart entries)
    (rooted : old.Rooted) {report : Report}
    (filed' : ∀ verdict, report.under verdict = filed output entries verdict) :
    Isolated options output (entries.map Entry.unit) old new report := by
  have created : report.created = filed output entries (some .created) := filed' (some .created)
  have updated : report.updated = filed output entries (some .updated) := filed' (some .updated)
  have unchanged : report.unchanged = filed output entries (some .unchanged) :=
    filed' (some .unchanged)
  have conflicts : report.conflicts = filed output entries none := filed' none
  refine ⟨apart.nodup_targets, ?_, ?_, ?_, ?_, ?_⟩
  · rw [created, updated, unchanged, conflicts]
    exact filed_perm output entries
  · intro stands verdict
    rw [filed', filed, targets, List.filter_map, List.map_map]
    refine congrArg _ (List.filter_congr fun entry listed => ?_)
    rw [Function.comp_apply, verdictOn, Entry.unit, writes.outcome_eq apart rooted stands entry
      listed]
  · intro stands
    rw [List.forall_mem_map]
    intro entry listed
    rw [Entry.unit, writes.outcome_eq apart rooted stands entry listed]
    exact writes.readText apart entry listed
  · intro location member
    have idle : ∃ entry ∈ entries, ¬ IsWritten entry.verdict ∧
        target output entry.path = location := by
      rw [unchanged, conflicts, List.mem_append, mem_filed, mem_filed] at member
      rcases member with ⟨entry, listed, verdict, same⟩ | ⟨entry, listed, verdict, same⟩
      · exact ⟨entry, listed, by simp [IsWritten, verdict], same⟩
      · exact ⟨entry, listed, by simp [IsWritten, verdict], same⟩
    obtain ⟨entry, listed, idle, rfl⟩ := idle
    obtain ⟨place, resolved, here⟩ :=
      FileTree.readText_eq_ok_iff.mp (writes.readText apart entry listed)
    refine ⟨place, _, resolved, (writes.file_iff ?_ _).mp here, here⟩
    intro other listed' touched resolved'
    exact idle (apart.eq_of_resolve listed listed' resolved resolved' ▸ touched)
  · intro place untouched content
    refine writes.file_iff (fun entry listed touched => untouched _ ?_) content
    rw [Report.written, created, updated, List.mem_append, mem_filed, mem_filed]
    exact touched.imp (fun verdict => ⟨entry, listed, verdict, rfl⟩)
      fun verdict => ⟨entry, listed, verdict, rfl⟩

/-! ## Settled files -/

/-- The entry of a unit that is written again. -/
def Entry.again (entry : Entry) : Entry :=
  { entry with verdict := entry.verdict.map fun _ => .unchanged }

/-- Writing again over what a run of writes has left touches nothing, when the texts end
with their first marker line. -/
theorem Writes.again (writes : Writes options output old entries new) (apart : Apart entries)
    (marked : ∀ entry ∈ entries, '\r' ∉ entry.text.toList ∧ EndsAtMarker options entry.text)
    (rootText : String) (journal : List Event) :
    ∃ last, writeAll options rootText output { tree := new, journal := journal }
        (entries.map Entry.unit) = (.ok (), last) ∧ last.tree = new ∧
      ∀ verdict, last.report.under verdict = filed output (entries.map Entry.again) verdict := by
  have units : (entries.map Entry.again).map Entry.unit = entries.map Entry.unit := by
    rw [List.map_map]
    rfl
  have settled : ∀ entry ∈ entries.map Entry.again,
      new.readText (target output entry.path) = .ok entry.left ∧
        outcome options (some entry.left) entry.text = (entry.verdict, entry.left) ∧
        ¬ IsWritten entry.verdict := by
    rw [List.forall_mem_map]
    intro entry listed
    obtain ⟨prior, result⟩ := writes.exists_outcome entry listed
    obtain ⟨plain, ends⟩ := marked entry listed
    have again := outcome_again plain ends prior
    rw [result] at again
    refine ⟨writes.readText apart entry listed, again, ?_⟩
    cases verdict : entry.verdict <;> simp [Entry.again, IsWritten, verdict]
  obtain ⟨last, done, same, filed'⟩ :=
    writeAll_settled rootText { tree := new, journal := journal } settled
  refine ⟨last, units ▸ done, same, fun verdict => ?_⟩
  rw [filed' verdict, Report.under_empty, List.nil_append]

/-! ## Runs -/

variable {setting : Graph.Setting Handle Loader} {limit : Nat} {rootText : String}
  {tree : FileTree} {roots : List Handle}

end TypeContracts.Generation
