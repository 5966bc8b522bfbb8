import Mathlib.Data.List.Induction
import TypeContracts.Files.Tree
import TypeContracts.Proofs.Result

/-!
# What operations on a file tree keep

Looking a location up passes through directories only, so a tree that has all directories
of another resolves every location that the other resolves, and to the same place
(`FileTree.HasDirectoriesOf.resolve`). Making directories only adds directories where
nothing stood, and writing a file changes the entry of one place (`FileTree.ChangedAt`).

In a file system every entry lies in a directory (`FileTree.Rooted`). The operations keep
that, and it makes the places of a tree and its locations agree: a file that stands
somewhere is found there.
-/

set_option autoImplicit false

namespace TypeContracts

/-! ## Locations -/

namespace Location

@[simp] theorem segments_withSegments (location : Location) (segments : List String) :
    (location.withSegments segments).segments = segments := by
  cases location <;> rfl

@[simp] theorem withSegments_withSegments (location : Location) (first second : List String) :
    (location.withSegments first).withSegments second = location.withSegments second := by
  cases location <;> rfl

@[simp] theorem withSegments_segments (location : Location) :
    location.withSegments location.segments = location := by
  cases location <;> rfl

/-- The place that segments lead down to. -/
def below (place : Location) (segments : List String) : Location :=
  place.withSegments (place.segments ++ segments)

@[simp] theorem segments_below (place : Location) (segments : List String) :
    (place.below segments).segments = place.segments ++ segments :=
  segments_withSegments _ _

@[simp] theorem below_nil (place : Location) : place.below [] = place := by
  rw [below, List.append_nil, withSegments_segments]

theorem below_cons (place : Location) (segment : String) (segments : List String) :
    place.below (segment :: segments) = (place.inner segment).below segments := by
  simp only [below, inner, segments_withSegments, withSegments_withSegments, List.append_assoc,
    List.singleton_append]

theorem below_append (place : Location) (first second : List String) :
    place.below (first ++ second) = (place.below first).below second := by
  simp only [below, segments_withSegments, withSegments_withSegments, List.append_assoc]

theorem below_injective {place : Location} {first second : List String}
    (same : place.below first = place.below second) : first = second := by
  have := congrArg segments same
  rw [segments_below, segments_below] at this
  exact List.append_cancel_left this

@[simp] theorem parent_below_concat (place : Location) (segments : List String)
    (segment : String) : (place.below (segments ++ [segment])).parent = place.below segments := by
  simp only [below, parent, segments_withSegments, withSegments_withSegments,
    ← List.append_assoc, List.dropLast_concat]

@[simp] theorem parent_inner (place : Location) (segment : String) :
    (place.inner segment).parent = place := by
  simp only [inner, parent, segments_withSegments, withSegments_withSegments,
    List.dropLast_concat, withSegments_segments]

/-- A beginning is no longer than the whole. -/
theorem length_le_of_mem_beginnings {α : Type} {whole front : List α}
    (member : front ∈ beginnings whole) : front.length ≤ whole.length := by
  induction whole generalizing front with
  | nil => simp_all [beginnings]
  | cons a rest ih =>
    rw [beginnings, List.mem_cons, List.mem_map] at member
    obtain rfl | ⟨behind, inside, rfl⟩ := member
    · exact Nat.zero_le _
    · exact Nat.succ_le_succ (ih inside)

end Location

/-! ## Contents -/

namespace Content

/-- The bytes of an array from a position on, behind those that were taken. -/
theorem toList_loop (bytes : ByteArray) (position : Nat) (taken : List UInt8) :
    ByteArray.toList.loop bytes position taken =
      taken.reverse ++ bytes.data.toList.drop position := by
  fun_induction ByteArray.toList.loop bytes position taken with
  | case1 position taken inside ih =>
    have here : position < bytes.data.toList.length := by simpa using inside
    rw [ih, List.drop_eq_getElem_cons here, List.reverse_cons, List.append_assoc]
    simp [ByteArray.get!, inside]
  | case2 position taken outside =>
    have done : bytes.data.toList.length ≤ position := by simpa using outside
    rw [List.drop_eq_nil_of_le done, List.append_nil]

theorem bytes_text (value : String) :
    (Content.text value).bytes = value.toByteArray.data.toList := by
  rw [Content.bytes, String.toUTF8_eq_toByteArray, ByteArray.toList, toList_loop]
  rfl

/-- A text behind another has its bytes behind the bytes of the other. -/
theorem bytes_text_append (front behind : String) :
    (Content.text (front ++ behind)).bytes =
      (Content.text front).bytes ++ (Content.text behind).bytes := by
  rw [bytes_text, bytes_text, bytes_text, String.toByteArray_append,
    ByteArray.toList_data_append]

/-- Different texts have different bytes. -/
theorem bytes_text_inj {a b : String} :
    (Content.text a).bytes = (Content.text b).bytes ↔ a = b := by
  rw [bytes_text, bytes_text, Array.toList_inj, ← ByteArray.ext_iff, String.toByteArray_inj]

end Content

namespace FileTree

/-! ## Entries -/

/-- A location without segments is a directory. -/
theorem entry?_of_segments_eq_nil (tree : FileTree) {place : Location}
    (top : place.segments = []) : tree.entry? place = some .directory := by
  unfold entry?
  rw [top]
  rfl

/-- Replacing the entries of one place leaves the first entry of another place. -/
theorem find?_replaced (entries : List (Location × FileEntry)) (place other : Location)
    (entry : FileEntry) :
    (entries.map fun old => if old.1 = place then (place, entry) else old).find?
        (fun old => decide (old.1 = other)) =
      if place = other then
        (entries.find? fun old => decide (old.1 = other)).map fun _ => (place, entry)
      else entries.find? fun old => decide (old.1 = other) := by
  induction entries with
  | nil => simp
  | cons old rest ih =>
    rw [List.map_cons, List.find?_cons, List.find?_cons, ih]
    by_cases here : old.1 = place
    · by_cases same : place = other
      · simp [here, same]
      · simp [here, same]
    · by_cases same : place = other
      · have apart : ¬ old.1 = other := fun equal => here (equal.trans same.symm)
        simp [same, apart]
      · simp [here, same]

/-- Setting an entry changes no other place. -/
theorem entry?_set_of_ne (tree : FileTree) {place other : Location} (apart : place ≠ other)
    (entry : FileEntry) : entry? (tree.set place entry) other = tree.entry? other := by
  by_cases top : other.segments = []
  · rw [entry?_of_segments_eq_nil _ top, entry?_of_segments_eq_nil _ top]
  · have open' : ¬ other.segments.isEmpty = true := by simpa using top
    simp only [if_neg open', set, entry?]
    split
    · rw [find?_replaced, if_neg apart]
    · simp [List.find?_append, apart]

/-- Setting an entry puts it there, unless the place is always a directory. -/
theorem entry?_set_self (tree : FileTree) {place : Location} (low : place.segments ≠ [])
    (entry : FileEntry) : entry? (tree.set place entry) place = some entry := by
  have open' : ¬ place.segments.isEmpty = true := by simpa using low
  simp only [if_neg open', set, entry?]
  split
  next present =>
    rw [find?_replaced, if_pos rfl]
    obtain ⟨old, member, here⟩ := List.any_eq_true.mp present
    cases search : tree.entries.find? fun old => decide (old.1 = place) with
    | none => exact absurd here (List.find?_eq_none.mp search old member)
    | some found => rfl
  next absent =>
    have nothing : (tree.entries.find? fun old => decide (old.1 = place)) = none := by
      rw [List.find?_eq_none]
      exact fun old member here => absent (List.any_eq_true.mpr ⟨old, member, here⟩)
    simp [List.find?_append, nothing]

/-! ## Resolving -/

/-- Every directory of `old` is a directory of `new`. -/
def HasDirectoriesOf (new old : FileTree) : Prop :=
  ∀ place, old.entry? place = some .directory → new.entry? place = some .directory

theorem HasDirectoriesOf.resolveFrom {old new : FileTree} (more : new.HasDirectoriesOf old)
    {start place : Location} {segments : List String}
    (resolved : old.resolveFrom start segments = .ok place) :
    new.resolveFrom start segments = .ok place := by
  induction segments generalizing start with
  | nil => exact resolved
  | cons segment rest ih =>
    rw [FileTree.resolveFrom] at resolved ⊢
    cases here : old.entry? start with
    | none => simp [here] at resolved
    | some entry =>
      cases entry with
      | file content => simp [here] at resolved
      | directory =>
        simp only [here] at resolved
        simp only [more start here]
        split_ifs at resolved ⊢
        · exact ih resolved
        · exact ih resolved

/-- A location leads to the same place in a tree with more directories. -/
theorem HasDirectoriesOf.resolve {old new : FileTree} (more : new.HasDirectoriesOf old)
    {location place : Location} (resolved : old.resolve location = .ok place) :
    new.resolve location = .ok place := by
  unfold FileTree.resolve at resolved ⊢
  split_ifs at resolved ⊢
  exact more.resolveFrom resolved

theorem resolveFrom_append (tree : FileTree) (start : Location) (first second : List String) :
    tree.resolveFrom start (first ++ second) =
      (tree.resolveFrom start first).bind fun place => tree.resolveFrom place second := by
  induction first generalizing start with
  | nil => rfl
  | cons segment rest ih =>
    rw [List.cons_append, resolveFrom, resolveFrom]
    split
    · rfl
    · rfl
    · split_ifs
      · rfl
      · exact ih _
      · rfl
      · exact ih _

/-- Segments that never climb lead down. -/
theorem resolveFrom_below {tree : FileTree} {start place : Location} {segments : List String}
    (down : ".." ∉ segments) (resolved : tree.resolveFrom start segments = .ok place) :
    place = start.below segments := by
  induction segments generalizing start with
  | nil => simpa [resolveFrom] using (Except.ok.inj resolved).symm
  | cons segment rest ih =>
    rw [List.mem_cons, not_or] at down
    rw [resolveFrom] at resolved
    split at resolved
    · cases resolved
    · cases resolved
    · rw [if_pos (Ne.symm down.1)] at resolved
      split_ifs at resolved
      rw [Location.below_cons]
      exact ih down.2 resolved

/-- A location below another is reached from where the other leads. -/
theorem resolve_below {tree : FileTree} {base place : Location} {segments : List String}
    (resolved : tree.resolve (base.below segments) = .ok place) :
    ∃ start, tree.resolveFrom (base.withSegments []) base.segments = .ok start ∧
      tree.resolveFrom start segments = .ok place := by
  unfold resolve at resolved
  split_ifs at resolved
  rw [Location.segments_below, Location.below, Location.withSegments_withSegments,
    resolveFrom_append] at resolved
  cases reached : tree.resolveFrom (base.withSegments []) base.segments with
  | error fault => simp [reached, Except.bind] at resolved
  | ok start => exact ⟨start, rfl, by simpa [reached, Except.bind] using resolved⟩

/-- A location leads to what stands at its place. -/
theorem lookup_eq_ok_iff {tree : FileTree} {location : Location} {entry : FileEntry} :
    tree.lookup location = .ok entry ↔
      ∃ place, tree.resolve location = .ok place ∧ tree.entry? place = some entry := by
  rw [lookup, Result.bind_eq_ok_iff]
  refine exists_congr fun place => and_congr_right fun _ => ?_
  cases tree.entry? place <;> simp [pure, Except.pure, throw, throwThe, MonadExceptOf.throw]

/-- A directory stands where a location leads to one. -/
theorem hasDirectory_iff {tree : FileTree} {location : Location} :
    tree.hasDirectory location = true ↔ tree.lookup location = .ok .directory := by
  rw [hasDirectory]
  rcases tree.lookup location with fault | _ | content <;> simp

/-- The location of a directory leads somewhere. -/
theorem exists_resolveFrom_of_hasDirectory {tree : FileTree} {location : Location}
    (stands : tree.hasDirectory location = true) :
    ∃ start, tree.resolveFrom (location.withSegments []) location.segments = .ok start := by
  obtain ⟨place, resolved, _⟩ := lookup_eq_ok_iff.mp (hasDirectory_iff.mp stands)
  unfold resolve at resolved
  split_ifs at resolved
  exact ⟨place, resolved⟩

/-! ## Rooted trees -/

/-- Every entry lies in a directory. -/
def Rooted (tree : FileTree) : Prop :=
  ∀ place, tree.entry? place ≠ none → tree.entry? place.parent = some .directory

/-- What stands below a place has the place as a directory above it. -/
theorem Rooted.directory_of_below {tree : FileTree} (rooted : tree.Rooted) {place : Location}
    {segments : List String} (proper : segments ≠ [])
    (present : tree.entry? (place.below segments) ≠ none) :
    tree.entry? place = some .directory := by
  induction segments using List.reverseRecOn with
  | nil => exact absurd rfl proper
  | append_singleton segments segment ih =>
    have above := rooted _ present
    rw [Location.parent_below_concat] at above
    by_cases last : segments = []
    · rwa [last, Location.below_nil] at above
    · exact ih last (by rw [above]; simp)

/-- What stands at a place of a rooted tree is found there by every location that leads
to the place in some tree. -/
theorem Rooted.resolveFrom_of_present {tree other : FileTree} (rooted : tree.Rooted)
    {start place : Location} {segments : List String} (down : ".." ∉ segments)
    (resolved : other.resolveFrom start segments = .ok place)
    (present : tree.entry? place ≠ none) : tree.resolveFrom start segments = .ok place := by
  have low := resolveFrom_below down resolved
  induction segments generalizing start with
  | nil => exact resolved
  | cons segment rest ih =>
    rw [List.mem_cons, not_or] at down
    have here : tree.entry? start = some .directory :=
      rooted.directory_of_below (by simp) (low ▸ present)
    rw [resolveFrom] at resolved ⊢
    rw [here]
    split at resolved
    · cases resolved
    · cases resolved
    · rw [if_pos (Ne.symm down.1)] at resolved ⊢
      split_ifs at resolved ⊢
      exact ih down.2 resolved (by rw [low, Location.below_cons])

/-- A place that a location leads to lies in a directory. -/
theorem Rooted.parent_of_resolveFrom {tree : FileTree} (rooted : tree.Rooted)
    {start place : Location} {segments : List String}
    (above : tree.entry? start.parent = some .directory)
    (resolved : tree.resolveFrom start segments = .ok place) :
    tree.entry? place.parent = some .directory := by
  induction segments generalizing start with
  | nil => exact Except.ok.inj resolved ▸ above
  | cons segment rest ih =>
    rw [resolveFrom] at resolved
    split at resolved
    · cases resolved
    · cases resolved
    next here =>
      split_ifs at resolved
      · exact ih (by rw [Location.parent_inner, here]) resolved
      · exact ih (rooted _ (by rw [above]; simp)) resolved

theorem Rooted.parent_of_resolve {tree : FileTree} (rooted : tree.Rooted)
    {location place : Location} (resolved : tree.resolve location = .ok place) :
    tree.entry? place.parent = some .directory := by
  unfold resolve at resolved
  split_ifs at resolved
  refine rooted.parent_of_resolveFrom (tree.entry?_of_segments_eq_nil ?_) resolved
  simp [Location.parent]

/-- Putting an entry into a directory keeps a tree rooted, unless it replaces a
directory. -/
theorem Rooted.set {tree : FileTree} (rooted : tree.Rooted) {place : Location}
    (above : tree.entry? place.parent = some .directory) {entry : FileEntry}
    (stays : tree.entry? place = some .directory →
      entry? (tree.set place entry) place = some .directory) :
    (tree.set place entry).Rooted := by
  have keeps : ∀ other, tree.entry? other = some .directory →
      entry? (tree.set place entry) other = some .directory := by
    intro other directory
    by_cases same : place = other
    · exact same ▸ stays (same ▸ directory)
    · rw [entry?_set_of_ne tree same, directory]
  intro other present
  by_cases same : place = other
  · exact same ▸ keeps _ above
  · rw [entry?_set_of_ne tree same] at present
    exact keeps _ (rooted other present)

/-- A directory stands where it has been put. -/
theorem entry?_set_directory (tree : FileTree) (place : Location) :
    entry? (tree.set place .directory) place = some .directory := by
  by_cases top : place.segments = []
  · exact entry?_of_segments_eq_nil _ top
  · exact entry?_set_self tree top _

/-- Putting directories one below another keeps a tree rooted. -/
theorem Rooted.directories {tree : FileTree} (rooted : tree.Rooted) {base : Location}
    (above : tree.entry? base.parent = some .directory) (segments : List String) :
    let made := ((Location.beginnings segments).map base.below).foldl
      (fun tree directory => tree.set directory .directory) tree
    made.Rooted ∧ entry? made (base.below segments) = some .directory := by
  induction segments generalizing tree base with
  | nil =>
    simp only [Location.beginnings, List.map_cons, List.map_nil, List.foldl_cons, List.foldl_nil,
      Location.below_nil]
    exact ⟨rooted.set above fun _ => entry?_set_directory tree base,
      entry?_set_directory tree base⟩
  | cons segment rest ih =>
    have first := rooted.set above fun _ => entry?_set_directory tree base
    have steps : (Location.beginnings (segment :: rest)).map base.below =
        base :: (Location.beginnings rest).map (base.inner segment).below := by
      simp [Location.beginnings, Location.below_cons, Function.comp_def]
    rw [steps, List.foldl_cons, Location.below_cons]
    exact ih first (by rw [Location.parent_inner, entry?_set_directory])

/-- Putting directories elsewhere leaves what stands at a place. -/
theorem entry?_foldl_set {directories : List Location} {place : Location}
    (outside : place ∉ directories) (tree : FileTree) :
    entry? (directories.foldl (fun tree directory => tree.set directory .directory) tree) place =
      tree.entry? place := by
  induction directories generalizing tree with
  | nil => rfl
  | cons directory rest ih =>
    rw [List.mem_cons, not_or] at outside
    rw [List.foldl_cons, ih outside.2, entry?_set_of_ne tree (Ne.symm outside.1)]

/-- Learning what stands at a place of a file system keeps a tree rooted: the directories
around the place are learned with it. -/
theorem Rooted.know {tree : FileTree} (rooted : tree.Rooted) {place : Location}
    {entry : FileEntry}
    (agrees : tree.entry? place = some .directory → entry = .directory) :
    (tree.know place entry).Rooted := by
  have around : place.around = (Location.beginnings place.segments.dropLast).map
      (place.withSegments []).below := by
    simp [Location.around, Location.below]
  have above : tree.entry? (place.withSegments []).parent = some .directory :=
    entry?_of_segments_eq_nil _ (by simp [Location.parent])
  obtain ⟨made, parent⟩ := rooted.directories above place.segments.dropLast
  rw [← around] at made parent
  have down : (place.withSegments []).below place.segments.dropLast = place.parent := by
    simp [Location.below, Location.parent]
  rw [down] at parent
  refine made.set parent fun directory => ?_
  by_cases top : place.segments = []
  · exact entry?_of_segments_eq_nil _ top
  · have proper : place ∉ place.around := by
      intro member
      obtain ⟨segments, inside, same⟩ := List.mem_map.mp member
      have short := Location.length_le_of_mem_beginnings inside
      have long := congrArg (fun location => location.segments.length) same
      have positive := List.length_pos_iff.mpr top
      simp only [Location.segments_withSegments, List.length_dropLast] at short long
      omega
    rw [entry?_foldl_set proper] at directory
    rw [agrees directory]
    exact entry?_set_directory _ _

/-! ## What an operation changes -/

/-- `new` is `old` with other entries at the given places and with more directories where
nothing stood. -/
structure ChangedAt (places : List Location) (old new : FileTree) : Prop where
  directories : new.HasDirectoriesOf old
  elsewhere : ∀ place, place ∉ places → new.entry? place = old.entry? place ∨
    (old.entry? place = none ∧ new.entry? place = some .directory)
  rooted : old.Rooted → new.Rooted

theorem ChangedAt.refl (tree : FileTree) : ChangedAt [] tree tree :=
  ⟨fun _ directory => directory, fun _ _ => .inl rfl, id⟩

theorem ChangedAt.trans {first second : List Location} {old middle new : FileTree}
    (before : ChangedAt first old middle) (after : ChangedAt second middle new) :
    ChangedAt (first ++ second) old new where
  directories place here := after.directories place (before.directories place here)
  rooted here := after.rooted (before.rooted here)
  elsewhere place outside := by
    rw [List.mem_append, not_or] at outside
    rcases after.elsewhere place outside.2 with same | ⟨nothing, made⟩
    · rw [same]
      exact before.elsewhere place outside.1
    · rcases before.elsewhere place outside.1 with same' | ⟨_, made'⟩
      · exact .inr ⟨same' ▸ nothing, made⟩
      · rw [made'] at nothing
        cases nothing

/-- A file outside the changed places is in one tree exactly when it is in the other. -/
theorem ChangedAt.file_iff {places : List Location} {old new : FileTree}
    (changed : ChangedAt places old new) {place : Location} (outside : place ∉ places)
    (content : Content) :
    new.entry? place = some (.file content) ↔ old.entry? place = some (.file content) := by
  rcases changed.elsewhere place outside with same | ⟨nothing, made⟩
  · rw [same]
  · rw [nothing, made]
    simp

/-- An entry that may be set in a rooted tree changes one place. -/
theorem changedAt_set {tree : FileTree} {location place : Location}
    (resolved : tree.resolve location = .ok place)
    (leaf : tree.entry? place ≠ some .directory) (entry : FileEntry) :
    ChangedAt [place] tree (tree.set place entry) := by
  refine ⟨fun other directory => ?_, fun other outside => .inl ?_, fun rooted =>
    rooted.set (rooted.parent_of_resolve resolved) fun directory => absurd directory leaf⟩
  · rw [entry?_set_of_ne tree, directory]
    rintro rfl
    exact leaf directory
  · rw [entry?_set_of_ne tree]
    rintro rfl
    exact outside List.mem_cons_self

/-- Making a directory adds a directory where nothing stood. -/
theorem changedAt_makeDirectory {tree made : FileTree} {location : Location}
    (done : tree.makeDirectory location = .ok made) : ChangedAt [] tree made := by
  unfold makeDirectory at done
  split_ifs at done
  · cases done
  · obtain ⟨place, resolved, behind⟩ := Result.bind_eq_ok_iff.mp done
    cases here : tree.entry? place with
    | some entry =>
      rw [here] at behind
      cases behind
    | none =>
      rw [here] at behind
      cases behind
      have step := changedAt_set resolved (by rw [here]; simp) .directory
      refine ⟨step.directories, fun other _ => ?_, step.rooted⟩
      by_cases same : other = place
      · exact .inr ⟨same ▸ here, same ▸ entry?_set_directory tree place⟩
      · exact step.elsewhere other (by simpa using same)

theorem changedAt_ensureDirectory {tree made : FileTree} {location : Location}
    (done : tree.ensureDirectory location = .ok made) : ChangedAt [] tree made := by
  unfold ensureDirectory at done
  split at done
  next made' first =>
    cases done
    exact changedAt_makeDirectory first
  next =>
    split_ifs at done
    cases done
    exact .refl tree

theorem changedAt_ensureAbove {tree made : FileTree} {location : Location}
    {above : List String} (done : tree.ensureAbove location above = .ok made) :
    ChangedAt [] tree made := by
  induction above generalizing made with
  | nil =>
    cases done
    exact .refl tree
  | cons segment above ih =>
    rw [ensureAbove] at done
    split at done
    next made' first =>
      cases done
      exact changedAt_makeDirectory first
    next =>
      obtain ⟨middle, lower, behind⟩ := Result.bind_eq_ok_iff.mp done
      exact (ih lower).trans (changedAt_ensureDirectory behind)
    next =>
      split_ifs at done
      cases done
      exact .refl tree

/-- Writing a file puts the content where the location leads to. -/
theorem write_eq_ok {tree written : FileTree} {location : Location} {content : Content}
    (done : tree.write location content = .ok written) :
    ∃ place, tree.resolve location = .ok place ∧ tree.entry? place ≠ some .directory ∧
      written = tree.set place (.file content) := by
  obtain ⟨place, resolved, behind⟩ := Result.bind_eq_ok_iff.mp done
  split at behind
  · cases behind
  next leaf => exact ⟨place, resolved, leaf, (Except.ok.inj behind).symm⟩

/-- Whether a file can be written does not depend on what is written. -/
theorem exists_write_iff {tree : FileTree} {location : Location} {content : Content} :
    (∃ written, tree.write location content = .ok written) ↔
      ∃ place, tree.resolve location = .ok place ∧ tree.entry? place ≠ some .directory := by
  constructor
  · rintro ⟨written, done⟩
    obtain ⟨place, resolved, leaf, _⟩ := write_eq_ok done
    exact ⟨place, resolved, leaf⟩
  · rintro ⟨place, resolved, leaf⟩
    refine ⟨tree.set place (.file content), Result.bind_eq_ok_iff.mpr ⟨place, resolved, ?_⟩⟩
    split
    next directory => exact absurd directory leaf
    next => rfl

/-- A file that has been written stands where its location leads to, and nothing else has
changed. -/
theorem changedAt_write {tree written : FileTree} {location : Location} {content : Content}
    (done : tree.write location content = .ok written) :
    ∃ place, tree.resolve location = .ok place ∧
      written.entry? place = some (.file content) ∧ ChangedAt [place] tree written := by
  obtain ⟨place, resolved, leaf, rfl⟩ := write_eq_ok done
  have low : place.segments ≠ [] := fun top => leaf (tree.entry?_of_segments_eq_nil top)
  exact ⟨place, resolved, entry?_set_self tree low _, changedAt_set resolved leaf _⟩

/-! ## Reading -/

/-- The content of a location is that of the file that it leads to. -/
theorem read_eq_ok_iff {tree : FileTree} {location : Location} {content : Content} :
    tree.read location = .ok content ↔ tree.lookup location = .ok (.file content) := by
  rw [read, Result.bind_eq_ok_iff]
  constructor
  · rintro ⟨_ | _, found, same⟩ <;> cases same
    exact found
  · exact fun found => ⟨_, found, rfl⟩

/-- The text of a location is its content, if that is a text. -/
theorem readText_eq_ok_iff_read {tree : FileTree} {location : Location} {text : String} :
    tree.readText location = .ok text ↔ tree.read location = .ok (.text text) := by
  rw [readText, Result.bind_eq_ok_iff]
  constructor
  · rintro ⟨_ | _, found, same⟩ <;> cases same
    exact found
  · exact fun found => ⟨_, found, rfl⟩

/-- The text of a file is that of the file where the location leads to. -/
theorem readText_eq_ok_iff {tree : FileTree} {location : Location} {text : String} :
    tree.readText location = .ok text ↔
      ∃ place, tree.resolve location = .ok place ∧
        tree.entry? place = some (.file (.text text)) := by
  rw [readText_eq_ok_iff_read, read_eq_ok_iff, lookup_eq_ok_iff]

/-- A file that has been written is read as it was written. -/
theorem readText_write {tree written : FileTree} {location : Location} {text : String}
    (done : tree.write location (.text text) = .ok written) :
    written.readText location = .ok text := by
  obtain ⟨place, resolved, here, changed⟩ := changedAt_write done
  exact readText_eq_ok_iff.mpr ⟨place, changed.directories.resolve resolved, here⟩

/-- A location of a directory is one in a tree with more directories. -/
theorem HasDirectoriesOf.hasDirectory {old new : FileTree} (more : new.HasDirectoriesOf old)
    {location : Location} (stands : old.hasDirectory location = true) :
    new.hasDirectory location = true := by
  rw [hasDirectory_iff, lookup_eq_ok_iff] at stands ⊢
  obtain ⟨place, resolved, here⟩ := stands
  exact ⟨place, more.resolve resolved, more place here⟩

/-- A text stays where nothing of its place has changed. -/
theorem ChangedAt.readText {places : List Location} {old new : FileTree} {location : Location}
    {text : String} (changed : ChangedAt places old new)
    (apart : ∀ place ∈ places, new.resolve location ≠ .ok place)
    (read : old.readText location = .ok text) : new.readText location = .ok text := by
  obtain ⟨place, resolved, here⟩ := readText_eq_ok_iff.mp read
  have resolved' := changed.directories.resolve resolved
  have outside : place ∉ places := fun member => apart place member resolved'
  exact readText_eq_ok_iff.mpr ⟨place, resolved', (changed.file_iff outside _).mpr here⟩

/-- Where a directory stands, the same texts are read below it before and after a change
elsewhere: a location that leads to a file afterwards has led to it before. -/
theorem ChangedAt.readText_below {places : List Location} {old new : FileTree}
    {base : Location} {segments : List String} (changed : ChangedAt places old new)
    (rooted : old.Rooted) (stands : old.hasDirectory base = true) (down : ".." ∉ segments)
    (apart : ∀ place ∈ places, new.resolve (base.below segments) ≠ .ok place) :
    (new.readText (base.below segments)).toOption =
      (old.readText (base.below segments)).toOption := by
  cases before : old.readText (base.below segments) with
  | ok text => rw [changed.readText apart before]
  | error fault =>
    cases after : new.readText (base.below segments) with
    | error fault => rfl
    | ok text =>
      obtain ⟨place, resolved, here⟩ := readText_eq_ok_iff.mp after
      have outside : place ∉ places := fun member => apart place member resolved
      have here' := (changed.file_iff outside _).mp here
      obtain ⟨start, reached⟩ := exists_resolveFrom_of_hasDirectory stands
      obtain ⟨start', reached', further⟩ := resolve_below resolved
      obtain rfl : start = start' :=
        Except.ok.inj ((changed.directories.resolveFrom reached).symm.trans reached')
      have further' := rooted.resolveFrom_of_present down further (by rw [here']; simp)
      have resolved' : old.resolve (base.below segments) = .ok place := by
        unfold resolve at resolved ⊢
        split_ifs at resolved ⊢
        rw [Location.segments_below, Location.below, Location.withSegments_withSegments,
          resolveFrom_append, reached]
        exact further'
      have read := readText_eq_ok_iff.mpr ⟨place, resolved', here'⟩
      cases before.symm.trans read

end FileTree

end TypeContracts
