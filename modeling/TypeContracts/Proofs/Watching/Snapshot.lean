import Mathlib.Data.List.Perm.Subperm
import TypeContracts.Proofs.Listing
import TypeContracts.Proofs.Result
import TypeContracts.Watching.Scene

/-!
# What a snapshot shows

A snapshot lists the files that the watched paths lead to, sorted by name, each once. Its entries
are what the paths see (`Scene.mem_snapshotOf_iff`), and a name stands with one modification time
only, so that nothing else goes into a snapshot: two of them differ exactly when a file is seen in
one of them and not in the other, or with another modification time (`Scene.snapshotOf_eq_iff`).
A file that is deleted or made anew is such a difference.
-/

set_option autoImplicit false

namespace TypeContracts.Scene

variable {stamps stamps' : List (String × Int)} {watched watched' : List String}
  {snapshot snapshot' : Snapshot}

/-- One of the watched paths leads to the file with this name and modification time. -/
def Sees (stamps : List (String × Int)) (watched : List String) (entry : String × Int) : Prop :=
  ∃ path ∈ watched, seen stamps path = .ok (some entry)

/-- A file is seen with the modification time that it has. -/
theorem Sees.lookup {entry : String × Int} (sees : Sees stamps watched entry) :
    stamps.lookup entry.1 = some entry.2 := by
  obtain ⟨path, _, found⟩ := sees
  unfold seen at found
  split at found
  · obtain ⟨stamp, listed, rfl⟩ := Option.map_eq_some_iff.mp (Except.ok.inj found)
    exact listed
  all_goals cases found

theorem snapshotOf_eq_ok_iff : snapshotOf stamps watched = .ok snapshot ↔
    ∃ found, watched.mapM (seen stamps) = .ok found ∧
      ((found.filterMap id).mergeSort fun a b => decide (a.1 ≤ b.1)).eraseDups = snapshot := by
  rw [snapshotOf, Result.bind_eq_ok_iff]
  simp [pure, Except.pure]

/-- The entries of a snapshot are what the watched paths see. -/
theorem mem_snapshotOf_iff (looked : snapshotOf stamps watched = .ok snapshot)
    {entry : String × Int} : entry ∈ snapshot ↔ Sees stamps watched entry := by
  obtain ⟨found, traversed, rfl⟩ := snapshotOf_eq_ok_iff.mp looked
  rw [List.mem_eraseDups, List.mem_mergeSort, List.mem_filterMap]
  constructor
  · rintro ⟨_, member, rfl⟩
    obtain ⟨path, inside, saw⟩ := Result.exists_of_mem_mapM traversed member
    exact ⟨path, inside, saw⟩
  · rintro ⟨path, inside, saw⟩
    obtain ⟨output, member, saw'⟩ := Result.exists_of_mem_inputs traversed inside
    exact ⟨output, member, (Except.ok.inj (saw.symm.trans saw')).symm⟩

/-- A snapshot is sorted by the names of its files, and lists none of its entries twice. -/
theorem sorted_snapshotOf (looked : snapshotOf stamps watched = .ok snapshot) :
    snapshot.Pairwise fun a b => a.1 ≤ b.1 ∧ a ≠ b := by
  obtain ⟨found, _, rfl⟩ := snapshotOf_eq_ok_iff.mp looked
  exact Listing.pairwise_eraseDups (Listing.sorted_mergeSort Prod.fst _)

/-- Two snapshots are the same when the same files are seen with the same modification times. -/
theorem snapshotOf_eq_iff (looked : snapshotOf stamps watched = .ok snapshot)
    (looked' : snapshotOf stamps' watched' = .ok snapshot') :
    snapshot = snapshot' ↔ ∀ entry, Sees stamps watched entry ↔ Sees stamps' watched' entry := by
  constructor
  · rintro rfl entry
    rw [← mem_snapshotOf_iff looked, ← mem_snapshotOf_iff looked']
  · intro same
    have sorted := sorted_snapshotOf looked
    have sorted' := sorted_snapshotOf looked'
    have permuted : snapshot.Perm snapshot' := by
      rw [List.perm_ext_iff_of_nodup (sorted.imp And.right) (sorted'.imp And.right)]
      intro entry
      rw [mem_snapshotOf_iff looked, mem_snapshotOf_iff looked', same]
    refine List.Perm.eq_of_pairwise ?_ (sorted.imp And.left) (sorted'.imp And.left) permuted
    -- Entries with the same name have the modification time of that file.
    intro a b member member' before behind
    have name : a.1 = b.1 := String.le_antisymm before behind
    have stamp := ((mem_snapshotOf_iff looked).mp member).lookup
    have stamp' := ((mem_snapshotOf_iff looked).mp (permuted.mem_iff.mpr member')).lookup
    rw [name, stamp'] at stamp
    exact Prod.ext name (Option.some.inj stamp).symm

end TypeContracts.Scene
