import TypeContracts.Proofs.Emission.Merge
import TypeContracts.Proofs.Generation.Targets

/-!
# The writes of a run

A run that ends well has written its texts one after another, and each write leaves its
own file as the outcome of the write says (`Writes`). Units with different plain paths
have different files, so that no write touches the file of another unit: every file keeps
the text of its own write to the end (`Writes.readText`), and where the output directory
climbs through directories only, every write finds what was there before the run
(`Writes.outcome_eq`).
-/

set_option autoImplicit false

namespace TypeContracts

/-! ## Reports -/

/-- The files of a report under a verdict; hand-written files have no status. -/
def Report.under (report : Report) : Option WriteStatus → List Location
  | none => report.conflicts
  | some .created => report.created
  | some .updated => report.updated
  | some .unchanged => report.unchanged

/-- The report with one more file under a verdict. -/
def Report.record (report : Report) (location : Location) : Option WriteStatus → Report
  | none => { report with conflicts := report.conflicts ++ [location] }
  | some status => report.add location status

@[simp] theorem Report.under_empty (verdict : Option WriteStatus) :
    Report.under {} verdict = [] := by
  rcases verdict with _ | _ | _ | _ <;> rfl

theorem Report.under_record (report : Report) (location : Location)
    (verdict other : Option WriteStatus) :
    (report.record location verdict).under other =
      report.under other ++ if verdict = other then [location] else [] := by
  rcases verdict with _ | _ | _ | _ <;> rcases other with _ | _ | _ | _ <;>
    simp [record, under, add]

namespace Generation

open Emission

variable {options : Options} {rootText : String} {output : Location}

/-! ## One write -/

/-- What a run has done with a unit: its path and text, the verdict on its file, and the
text of the file afterwards. -/
structure Entry where
  path : String
  text : String
  verdict : Option WriteStatus
  left : String

/-- A unit whose outcome does not ask for a write is reported, and no file is touched. -/
theorem writeUnit_settled (rootText : String) {progress : Progress} {path text left : String}
    {verdict : Option WriteStatus}
    (read : progress.tree.readText (target output path) = .ok left)
    (result : outcome options (some left) text = (verdict, left)) (idle : ¬ IsWritten verdict) :
    ∃ next, writeUnit options rootText output progress path text = .ok next ∧
      next.tree = progress.tree ∧
      next.report = progress.report.record (target output path) verdict := by
  have answered : Emission.write options progress.tree (target output path) text =
      answer progress.tree verdict := by
    have settled := write_settled read (by rwa [result])
    rwa [result] at settled
  unfold writeUnit
  cases verdict with
  | none =>
    simp only [answered, answer]
    exact ⟨_, rfl, rfl, rfl⟩
  | some status =>
    simp only [answered, answer]
    exact ⟨_, rfl, rfl, rfl⟩

/-! ## All writes -/

section Equations

variable {progress next : Progress} {path text : String} {rest : List (String × String)}

theorem writeAll_nil (options : Options) (rootText : String) (output : Location)
    (progress : Progress) : ∃ journal, writeAll options rootText output progress [] =
    (.ok (), { progress with journal := journal }) :=
  ⟨_, rfl⟩

theorem writeAll_cons (options : Options) (rootText : String) (output : Location)
    (progress : Progress) (path text : String) (rest : List (String × String)) :
    writeAll options rootText output progress ((path, text) :: rest) =
      match writeUnit options rootText output progress path text with
      | .ok next => writeAll options rootText output next rest
      | .error fault => (.error fault, progress) := by rfl

theorem writeAll_cons_ok
    (first : writeUnit options rootText output progress path text = .ok next) :
    writeAll options rootText output progress ((path, text) :: rest) =
      writeAll options rootText output next rest := by
  rw [writeAll_cons, first]

end Equations

/-- The writes of a run, in the order of its units. -/
inductive Writes (options : Options) (output : Location) :
    FileTree → List Entry → FileTree → Prop where
  | nil (tree : FileTree) : Writes options output tree [] tree
  | cons {old middle new : FileTree} {entry : Entry} {entries : List Entry}
      (result : outcome options (old.readText (target output entry.path)).toOption entry.text =
        (entry.verdict, entry.left))
      (leaves : Leaves (target output entry.path) entry.verdict entry.left old middle)
      (rest : Writes options output middle entries new) :
      Writes options output old (entry :: entries) new

/-- The unit of an entry with its text. -/
def Entry.unit (entry : Entry) : String × String := (entry.path, entry.text)

/-- The files of entries with a verdict. -/
def filed (output : Location) (entries : List Entry) (verdict : Option WriteStatus) :
    List Location :=
  (entries.filter fun entry => entry.verdict = verdict).map fun entry =>
    target output entry.path

theorem filed_cons (entry : Entry) (entries : List Entry) (verdict : Option WriteStatus) :
    filed output (entry :: entries) verdict =
      (if entry.verdict = verdict then [target output entry.path] else []) ++
        filed output entries verdict := by
  unfold filed
  by_cases same : entry.verdict = verdict
  · simp [same]
  · simp [same]

/-- Writing units that are settled already touches no file, and cannot be stopped. -/
theorem writeAll_settled (rootText : String) (progress : Progress) {entries : List Entry}
    (settled : ∀ entry ∈ entries,
      progress.tree.readText (target output entry.path) = .ok entry.left ∧
      outcome options (some entry.left) entry.text = (entry.verdict, entry.left) ∧
      ¬ IsWritten entry.verdict) :
    ∃ last, writeAll options rootText output progress (entries.map Entry.unit) = (.ok (), last) ∧
      last.tree = progress.tree ∧
      ∀ verdict, last.report.under verdict =
        progress.report.under verdict ++ filed output entries verdict := by
  induction entries generalizing progress with
  | nil =>
    obtain ⟨journal, ended⟩ := writeAll_nil options rootText output progress
    exact ⟨_, ended, rfl, fun verdict => (List.append_nil _).symm⟩
  | cons entry entries ih =>
    rw [List.forall_mem_cons] at settled
    obtain ⟨⟨read, result, idle⟩, others⟩ := settled
    obtain ⟨next, first, same, reported⟩ := writeUnit_settled rootText read result idle
    rw [← same] at others
    obtain ⟨last, rest, same', filed'⟩ := ih next others
    refine ⟨last, ?_, same'.trans same, fun other => ?_⟩
    · rw [List.map_cons, Entry.unit, writeAll_cons_ok first, rest]
    · rw [filed' other, reported, Report.under_record, filed_cons, List.append_assoc]

/-! ## What a run of writes changes -/

variable {old new : FileTree} {entries : List Entry}

/-- A run of writes changes at most the files that it has written. -/
theorem Writes.changedAt (writes : Writes options output old entries new) :
    ∃ places, FileTree.ChangedAt places old new ∧ ∀ place ∈ places, ∃ entry ∈ entries,
      IsWritten entry.verdict ∧ new.resolve (target output entry.path) = .ok place := by
  induction writes with
  | nil tree => exact ⟨[], .refl tree, by simp⟩
  | @cons old middle new entry entries result leaves rest ih =>
    obtain ⟨first, changed, own⟩ := leaves.changedAt
    obtain ⟨second, changed', others⟩ := ih
    refine ⟨first ++ second, changed.trans changed', fun place member => ?_⟩
    rcases List.mem_append.mp member with here | there
    · obtain ⟨written, resolved⟩ := own place here
      exact ⟨entry, List.mem_cons_self, written, changed'.directories.resolve resolved⟩
    · obtain ⟨other, listed, found⟩ := others place there
      exact ⟨other, List.mem_cons_of_mem _ listed, found⟩

/-- Entries of different units, with plain paths. -/
structure Apart (entries : List Entry) : Prop where
  nodup : (entries.map Entry.path).Nodup
  plain : ∀ entry ∈ entries, Plain entry.path

theorem Apart.cons {entry : Entry} (apart : Apart (entry :: entries)) :
    Apart entries ∧ ∀ other ∈ entries, ∀ {tree : FileTree} {place : Location},
      tree.resolve (target output entry.path) = .ok place →
        tree.resolve (target output other.path) ≠ .ok place := by
  obtain ⟨nodup, plain⟩ := apart
  rw [List.map_cons, List.nodup_cons] at nodup
  rw [List.forall_mem_cons] at plain
  refine ⟨⟨nodup.2, plain.2⟩, fun other listed tree place resolved resolved' => nodup.1 ?_⟩
  rw [plain.1.resolve_target_inj (plain.2 other listed) resolved resolved']
  exact List.mem_map.mpr ⟨other, listed, rfl⟩

/-- At the end of a run, every file has the text of its own write. -/
theorem Writes.readText (writes : Writes options output old entries new)
    (apart : Apart entries) :
    ∀ entry ∈ entries, new.readText (target output entry.path) = .ok entry.left := by
  induction writes with
  | nil tree => simp
  | @cons old middle new entry entries result leaves rest ih =>
    obtain ⟨apart', others⟩ := apart.cons
    rw [List.forall_mem_cons]
    refine ⟨?_, ih apart'⟩
    obtain ⟨places, changed, written⟩ := rest.changedAt
    refine changed.readText (fun place member resolved => ?_) leaves.read
    obtain ⟨other, listed, _, resolved'⟩ := written place member
    exact others other listed resolved resolved'

/-- Every entry is the outcome of its write over some text of its file. -/
theorem Writes.exists_outcome (writes : Writes options output old entries new) :
    ∀ entry ∈ entries, ∃ prior,
      outcome options prior entry.text = (entry.verdict, entry.left) := by
  induction writes with
  | nil tree => simp
  | cons result leaves rest ih =>
    rw [List.forall_mem_cons]
    exact ⟨⟨_, result⟩, ih⟩

/-- Where the output directory climbs through directories only, every entry is the outcome
of its write over what its file was before the run. -/
theorem Writes.outcome_eq (writes : Writes options output old entries new)
    (apart : Apart entries) (rooted : old.Rooted)
    (stands : old.hasDirectory output.ascent = true) :
    ∀ entry ∈ entries,
      outcome options (old.readText (target output entry.path)).toOption entry.text =
        (entry.verdict, entry.left) := by
  induction writes with
  | nil tree => simp
  | @cons old middle new entry entries result leaves rest ih =>
    obtain ⟨apart', others⟩ := apart.cons
    obtain ⟨places, changed, own⟩ := leaves.changedAt
    rw [List.forall_mem_cons]
    refine ⟨result, fun other listed => ?_⟩
    have kept := (apart'.plain other listed).readText_kept changed rooted stands
      fun place member => others other listed (own place member).2
    rw [← kept]
    exact ih apart' (changed.rooted rooted) (changed.directories.hasDirectory stands) other listed

end Generation

end TypeContracts
