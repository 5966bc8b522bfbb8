import TypeContracts.Mapping.Override
import TypeContracts.Proofs.Listing
import TypeContracts.Proofs.Result

/-!
# Selecting overrides

Overrides are selected by their names in lower case. A wanted name is used up by the first entry
that bears it, so that a selection loads one entry for each wanted name, the first one
(`RegistryEntry.loadWanted_eq`). It is the list of all entries with a wanted name exactly when no
two of these have one name in lower case. Names that no entry bears are reported, sorted
(`RegistryEntry.select_some`).
-/

set_option autoImplicit false

namespace TypeContracts.RegistryEntry

/-- The name under which an entry is looked for. -/
def key (entry : RegistryEntry) : String := Text.lower entry.name

/-- The entry loads to an override. -/
def IsUsable (entry : RegistryEntry) : Prop := ∃ name, entry.load = .ok name

/-- The entries with a wanted name. -/
def bearers (wanted : List String) (entries : List RegistryEntry) : List RegistryEntry :=
  entries.filter fun entry => wanted.contains entry.key

/-- The first entry of each name. -/
def firsts (entries : List RegistryEntry) : List RegistryEntry :=
  entries.eraseDupsBy fun entry other => entry.key == other.key

/-- The wanted names that no entry bears. -/
def missing (wanted : List String) (entries : List RegistryEntry) : List String :=
  wanted.filter fun name => !(entries.map key).contains name

variable {entry : RegistryEntry} {entries : List RegistryEntry} {wanted : List String}

/-! ## One entry -/

theorem bearers_cons_of_mem (isWanted : entry.key ∈ wanted) (rest : List RegistryEntry) :
    bearers wanted (entry :: rest) = entry :: bearers wanted rest :=
  List.filter_cons_of_pos (by simpa using isWanted)

theorem bearers_cons_of_notMem (unwanted : entry.key ∉ wanted) (rest : List RegistryEntry) :
    bearers wanted (entry :: rest) = bearers wanted rest :=
  List.filter_cons_of_neg (by simpa using unwanted)

/-- Behind an entry, its name is wanted no more. -/
theorem firsts_cons_bearers (entry : RegistryEntry) (wanted : List String)
    (rest : List RegistryEntry) : firsts (entry :: bearers wanted rest) =
      entry :: firsts (bearers (wanted.filter (· != entry.key)) rest) := by
  rw [firsts, List.eraseDupsBy_cons, bearers, List.filter_filter, firsts, bearers]
  congr 3
  funext other
  by_cases same : other.key = entry.key <;> simp [same]

theorem missing_cons (entry : RegistryEntry) (wanted : List String) (rest : List RegistryEntry) :
    missing wanted (entry :: rest) = missing (wanted.filter (· != entry.key)) rest := by
  rw [missing, missing, List.filter_filter]
  congr 1
  funext name
  by_cases same : name = entry.key <;> simp [same]

/-! ## All entries -/

theorem IsUsable.sublist {kept : List RegistryEntry} (usable : ∀ entry ∈ entries, entry.IsUsable)
    (inside : kept.Sublist entries) : ∀ entry ∈ kept, entry.IsUsable :=
  fun entry member => usable entry (inside.mem member)

theorem exists_loadAll (usable : ∀ entry ∈ entries, entry.IsUsable) :
    ∃ names, loadAll entries = .ok names :=
  Result.exists_mapM_eq_ok_iff.mpr usable

/-- The names of all entries are one for each entry. -/
theorem length_of_loadAll {names : List String} (loaded : loadAll entries = .ok names) :
    entries.length = names.length :=
  (Result.mapM_eq_ok_iff.mp loaded).length_eq

/-- Wanted names are loaded from the first entries that bear them, if every wanted name has one. -/
theorem loadWanted_eq (usable : ∀ entry ∈ entries, entry.IsUsable) (wanted : List String) :
    loadWanted wanted entries =
      if missing wanted entries = [] then loadAll (firsts (bearers wanted entries))
      else .error (.unknown ((missing wanted entries).mergeSort fun a b => decide (a ≤ b))) := by
  induction entries generalizing wanted with
  | nil =>
    have all : missing wanted [] = wanted := by simp [missing]
    simp only [loadWanted, all, List.isEmpty_iff]
    rfl
  | cons entry rest ih =>
    rw [List.forall_mem_cons] at usable
    obtain ⟨name, loaded⟩ := usable.1
    rw [missing_cons]
    by_cases isWanted : entry.key ∈ wanted
    · have asked : wanted.contains (Text.lower entry.name) = true := by
        simpa [key] using isWanted
      simp only [loadWanted, asked, if_true, loaded]
      rw [bearers_cons_of_mem isWanted, firsts_cons_bearers, loadAll, List.mapM_cons, loaded]
      change (loadWanted (wanted.filter (· != entry.key)) rest >>= fun names =>
        pure (name :: names)) = _
      rw [ih usable.2]
      split <;> rfl
    · have unasked : wanted.contains (Text.lower entry.name) = false := by
        simpa [key] using isWanted
      have same : wanted.filter (· != entry.key) = wanted :=
        List.filter_eq_self.mpr fun name member => by
          simpa using fun equal : name = entry.key => isWanted (equal ▸ member)
      simp only [loadWanted, unasked, Bool.false_eq_true, if_false]
      rw [bearers_cons_of_notMem isWanted, same, ih usable.2]

/-- The first entries are all entries when no two names agree in lower case, and load to fewer
overrides otherwise. -/
theorem loadAll_firsts_eq_iff (usable : ∀ entry ∈ entries, entry.IsUsable) :
    loadAll (firsts entries) = loadAll entries ↔ (entries.map key).Nodup := by
  rw [← Listing.eraseDupsBy_eq_self_iff]
  have inside : (firsts entries).Sublist entries := Listing.eraseDupsBy_sublist _ entries
  constructor
  · intro same
    obtain ⟨names, loaded⟩ := exists_loadAll usable
    have lengths := (length_of_loadAll (same.trans loaded)).trans (length_of_loadAll loaded).symm
    exact inside.eq_of_length lengths
  · exact congrArg loadAll

theorem mem_missing {name : String} :
    name ∈ missing wanted entries ↔ name ∈ wanted ∧ ∀ entry ∈ entries, entry.key ≠ name := by
  simp [missing]

/-! ## Selections -/

variable {enabled : List String}

/-- A name that is wanted twice is wanted. -/
theorem bearers_eraseDups (wanted : List String) (entries : List RegistryEntry) :
    bearers wanted.eraseDups entries = bearers wanted entries :=
  List.filter_congr fun entry _ => by simp

theorem select_of_borne (usable : ∀ entry ∈ entries, entry.IsUsable)
    (borne : ∀ name ∈ enabled.map Text.lower, ∃ entry ∈ entries, entry.key = name) :
    select entries (some enabled) =
      loadAll (firsts (bearers (enabled.map Text.lower) entries)) := by
  have nothing : missing (enabled.map Text.lower).eraseDups entries = [] := by
    rw [List.eq_nil_iff_forall_not_mem]
    intro name member
    obtain ⟨isWanted, unborne⟩ := mem_missing.mp member
    obtain ⟨entry, inside, same⟩ := borne name (List.mem_eraseDups.mp isWanted)
    exact unborne entry inside same
  rw [select, loadWanted_eq usable, if_pos nothing, bearers_eraseDups]

/-- Missing names are reported once, in their order. -/
theorem select_of_missing (usable : ∀ entry ∈ entries, entry.IsUsable)
    (unborne : ∃ name ∈ enabled.map Text.lower, ∀ entry ∈ entries, entry.key ≠ name) :
    ∃ unknown, select entries (some enabled) = .error (.unknown unknown) ∧
      unknown.Pairwise (· < ·) ∧ ∀ name, name ∈ unknown ↔
        name ∈ enabled.map Text.lower ∧ ∀ entry ∈ entries, entry.key ≠ name := by
  set wanted := (enabled.map Text.lower).eraseDups with wanted_eq
  have nonempty : missing wanted entries ≠ [] := by
    obtain ⟨name, isWanted, nobody⟩ := unborne
    exact List.ne_nil_of_mem (mem_missing.mpr ⟨List.mem_eraseDups.mpr isWanted, nobody⟩)
  refine ⟨(missing wanted entries).mergeSort fun a b => decide (a ≤ b), ?_, ?_, fun name => ?_⟩
  · rw [select, loadWanted_eq usable, if_neg nonempty]
  · have distinct : ((missing wanted entries).mergeSort fun a b => decide (a ≤ b)).Nodup :=
      (List.mergeSort_perm _ _).nodup_iff.mpr ((Listing.nodup_eraseDups _).filter _)
    refine (Listing.sorted_mergeSort id (missing wanted entries)).imp₂ ?_ distinct
    exact fun a b before different => Std.lt_of_le_of_ne before different
  · rw [(List.mergeSort_perm _ _).mem_iff, mem_missing, wanted_eq, List.mem_eraseDups]

/-- A selection from usable entries. If every wanted name has an entry, the selection loads the
first entry of each wanted name, in their order; this is the list of all entries with a wanted name
exactly when no two of these have one name in lower case. Otherwise the wanted names without an
entry are reported, sorted. -/
theorem select_some (usable : ∀ entry ∈ entries, entry.IsUsable) (enabled : List String) :
    ((∀ name ∈ enabled.map Text.lower, ∃ entry ∈ entries, entry.key = name) →
      ∃ names, select entries (some enabled) = .ok names ∧
        List.Forall₂ (fun entry name => entry.load = .ok name)
          (firsts (bearers (enabled.map Text.lower) entries)) names ∧
        (select (bearers (enabled.map Text.lower) entries) none = .ok names ↔
          ((bearers (enabled.map Text.lower) entries).map key).Nodup)) ∧
    ((∃ name ∈ enabled.map Text.lower, ∀ entry ∈ entries, entry.key ≠ name) →
      ∃ unknown, select entries (some enabled) = .error (.unknown unknown) ∧
        unknown.Pairwise (· < ·) ∧ ∀ name, name ∈ unknown ↔
          name ∈ enabled.map Text.lower ∧ ∀ entry ∈ entries, entry.key ≠ name) := by
  refine ⟨fun borne => ?_, select_of_missing usable⟩
  have wantedUsable : ∀ entry ∈ bearers (enabled.map Text.lower) entries, entry.IsUsable :=
    IsUsable.sublist usable List.filter_sublist
  have firstUsable : ∀ entry ∈ firsts (bearers (enabled.map Text.lower) entries), entry.IsUsable :=
    IsUsable.sublist wantedUsable (Listing.eraseDupsBy_sublist _ _)
  obtain ⟨names, loaded⟩ := exists_loadAll firstUsable
  refine ⟨names, (select_of_borne usable borne).trans loaded, Result.mapM_eq_ok_iff.mp loaded, ?_⟩
  rw [← loadAll_firsts_eq_iff wantedUsable, loaded]
  exact eq_comm

/-- Different names in any spelling are selected as they stand in the registry, and an unknown name
is reported. -/
theorem select_some_spellings :
    let entries : List RegistryEntry :=
      [⟨"Null", .override "none"⟩, ⟨"dates", .override "iso"⟩, ⟨"Money", .override "cents"⟩]
    (∀ entry ∈ entries, entry.IsUsable) ∧
      select (bearers ["money", "null", "null"] entries) none =
        select entries (some ["MONEY", "null", "NULL"]) ∧
      ∃ unknown, select entries (some ["money", "Times"]) = .error (.unknown unknown) ∧
        ∀ name, name ∈ unknown → name = "times" := by
  intro entries
  have usable : ∀ entry ∈ entries, entry.IsUsable := by simp [entries, IsUsable, load]
  have lowered : ["MONEY", "null", "NULL"].map Text.lower = ["money", "null", "null"] := by
    decide +kernel
  have lowered' : ["money", "Times"].map Text.lower = ["money", "times"] := by decide +kernel
  obtain ⟨found, -⟩ := select_some usable ["MONEY", "null", "NULL"]
  obtain ⟨-, unknown⟩ := select_some usable ["money", "Times"]
  rw [lowered] at found
  rw [lowered'] at unknown
  obtain ⟨names, selected, -, whole⟩ := found (by decide +kernel)
  obtain ⟨names', refused, -, exactly⟩ := unknown (by decide +kernel)
  refine ⟨usable, (whole.mpr (by decide +kernel)).trans selected.symm, names', refused, ?_⟩
  intro name member
  obtain ⟨isWanted, nobody⟩ := (exactly name).mp member
  rcases List.mem_cons.mp isWanted with rfl | last
  · exact absurd (by decide +kernel) (nobody ⟨"Money", .override "cents"⟩ (by simp [entries]))
  · exact List.mem_singleton.mp last

/-- Of two entries whose names agree in lower case, the selection leaves the second out. -/
theorem select_two_spellings :
    let entries : List RegistryEntry := [⟨"Money", .override "a"⟩, ⟨"money", .override "b"⟩]
    (∀ entry ∈ entries, ∃ name, entry.load = .ok name) ∧
      (∀ name ∈ ["money"].map Text.lower, ∃ entry ∈ entries, Text.lower entry.name = name) ∧
      (entries.filter fun entry => (["money"].map Text.lower).contains (Text.lower entry.name)) =
        entries ∧
      select entries none = .ok ["a", "b"] ∧ select entries (some ["money"]) = .ok ["a"] := by
  refine ⟨by simp [load], ?_⟩
  decide +kernel

end TypeContracts.RegistryEntry
