import TypeContracts.Proofs.Source.Evaluation
import TypeContracts.Source.Bases

/-!
# What bases bring in

A class is derived from classes that are there: its bases stand for classes of the world or of
the library, its ancestors come from the lineages of its bases, and the arguments of its bases
mention only classes that its bases mention, or the bases of those.
-/

set_option autoImplicit false

namespace TypeContracts

open Result

/-! ## Lineages -/

namespace Lineage

variable {α : Type} [DecidableEq α]

theorem exists_led_of_next? {lists : List (List α)} {head : α} (found : next? lists = some head) :
    ∃ list ∈ lists, list.head? = some head := by
  obtain ⟨list, member, here⟩ := List.exists_of_findSome?_eq_some found
  refine ⟨list, member, ?_⟩
  rcases list with _ | ⟨first, rest⟩
  · cases here
  · simp only at here
    split at here <;> cases here
    rfl

/-- Merging lists brings in no element of its own. -/
theorem mem_of_merge (count : Nat) (lists : List (List α)) :
    Yields (merge count lists) fun merged => ∀ one ∈ merged, ∃ list ∈ lists, one ∈ list := by
  induction count generalizing lists with
  | zero =>
    unfold merge
    simp only
    split
    · simp
    · exact yields_error
    next none _ => cases none
  | succ count ih =>
    unfold merge
    simp only
    split
    · simp
    next none _ => cases none
    next same _ =>
      cases same
      split
      · exact yields_error
      next first found =>
        refine (ih _).map fun merged each => ?_
        have kept : ∀ {one : α} {list : List α}, list ∈ lists.filter (fun list => !list.isEmpty) →
            one ∈ list → ∃ list ∈ lists, one ∈ list :=
          fun member inside => ⟨_, List.mem_of_mem_filter member, inside⟩
        rw [List.forall_mem_cons]
        constructor
        · obtain ⟨list, member, led⟩ := exists_led_of_next? found
          exact kept member (List.mem_of_mem_head? led)
        · intro one later
          obtain ⟨list, member, inside⟩ := each one later
          obtain ⟨list', member, same⟩ := List.mem_map.mp member
          split at same
          · exact kept member (List.mem_of_mem_tail (same ▸ inside))
          · exact kept member (same ▸ inside)

/-- What is the first answer in merged lists is the first answer in one of them. -/
theorem findSome?_of_merge {β : Type} {answer : α → Option β} {found : β} (count : Nat)
    (lists : List (List α)) :
    Yields (merge count lists) fun merged => merged.findSome? answer = some found →
      ∃ list ∈ lists, list.findSome? answer = some found := by
  induction count generalizing lists with
  | zero =>
    unfold merge
    simp only
    split
    · simp
    · exact yields_error
    next none _ => cases none
  | succ count ih =>
    unfold merge
    simp only
    split
    · simp
    next none _ => cases none
    next same _ =>
      cases same
      split
      · exact yields_error
      next first taken =>
        refine (ih _).map fun merged behind asked => ?_
        rw [List.findSome?_cons] at asked
        rcases own : answer first with _ | value <;> rw [own] at asked
        · obtain ⟨list, member, told⟩ := behind asked
          obtain ⟨list', inside, same⟩ := List.mem_map.mp member
          refine ⟨list', List.mem_of_mem_filter inside, ?_⟩
          split at same
          next led =>
            obtain ⟨rest, rfl⟩ := List.head?_eq_some_iff.mp led
            rw [List.findSome?_cons, own, ← told, ← same]
            rfl
          · exact same ▸ told
        · obtain ⟨list, member, led⟩ := exists_led_of_next? taken
          obtain ⟨rest, rfl⟩ := List.head?_eq_some_iff.mp led
          exact ⟨_, List.mem_of_mem_filter member, by rw [List.findSome?_cons, own, ← asked]⟩

/-- The first answer among the ancestors of a class is the first answer in the lineage of a base,
when the lineage of every class starts with the class. -/
theorem findSome?_of_ofBases {β : Type} {answer : α → Option β} {found : β} {lineage : α → List α}
    {bases : List α} (own : ∀ base ∈ bases, (lineage base).head? = some base) :
    Yields (ofBases lineage bases) fun ancestors => ancestors.findSome? answer = some found →
      ∃ base ∈ bases, (lineage base).findSome? answer = some found := by
  intro ancestors merged asked
  obtain ⟨list, inside, told⟩ := findSome?_of_merge _ _ ancestors merged asked
  rcases List.mem_append.mp inside with mapped | last
  · obtain ⟨base, among, rfl⟩ := List.mem_map.mp mapped
    exact ⟨base, among, told⟩
  · rw [List.mem_singleton.mp last] at told
    obtain ⟨base, among, here⟩ := List.exists_of_findSome?_eq_some told
    obtain ⟨rest, starts⟩ := List.head?_eq_some_iff.mp (own base among)
    exact ⟨base, among, by rw [starts, List.findSome?_cons, here]⟩

/-- The ancestors of a class are its bases and what is in their lineages. -/
theorem mem_of_ofBases {lineage : α → List α} {bases : List α} :
    Yields (ofBases lineage bases) fun ancestors =>
      ∀ one ∈ ancestors, one ∈ bases ∨ ∃ base ∈ bases, one ∈ lineage base := by
  unfold ofBases
  refine (mem_of_merge _ _).mono fun merged each one member => ?_
  obtain ⟨list, inside, here⟩ := each one member
  rcases List.mem_append.mp inside with mapped | last
  · obtain ⟨base, among, rfl⟩ := List.mem_map.mp mapped
    exact .inr ⟨base, among, here⟩
  · exact .inl (List.mem_singleton.mp last ▸ here)

end Lineage

/-! ## Classes that were defined before -/

/-- A class of the contracts that is among the first ones, or one of the library. -/
def Ancestor.Below (count : Nat) : Ancestor → Prop
  | .contract number => number < count
  | .library _ => True

namespace Bases

variable {world : World} {count : Nat}

/-- A base is a class that is among the first ones, or a value. -/
def Base.Below (count : Nat) : Base → Prop
  | .made c => c.Below count
  | .value _ => True

theorem below_classOf? {a : Atom} {c : Ancestor} (covered : a.Over (·.number < count))
    (found : classOf? a = some c) : c.Below count := by
  cases a with
  | contract d =>
    cases found
    exact covered
  | special s =>
    obtain ⟨l, _, rfl⟩ := Option.map_eq_some_iff.mp found
    trivial
  | library | any | noneType =>
    cases found
    trivial
  | _ => cases found

theorem below_ofAlias (base : PlacedBase) (a : Alias) :
    Yields (ofAlias world base a) fun bases => ∀ base ∈ bases, base.Below count := by
  have own : ∀ base' ∈ (if base.all.any (isLibrary a.origin) then []
      else [.made (.library a.origin)] : List Base), base'.Below count := by
    split
    · exact nofun
    · simp [Base.Below, Ancestor.Below]
  unfold ofAlias
  simp only
  intro bases found
  obtain ⟨brings, _, found⟩ := bind_eq_ok_iff.mp found
  cases found
  split
  · exact own
  · rw [List.forall_mem_append]
    exact ⟨own, by simp [Base.Below, Ancestor.Below, Ancestor.generic]⟩

/-- A base stands for classes that it mentions, and classes of the library. -/
theorem below_ofBase {base : PlacedBase} (covered : base.form.Over (·.number < count)) :
    Yields (ofBase world base) fun bases => ∀ base ∈ bases, base.Below count := by
  have one : ∀ {b : Base}, b.Below count →
      Yields (.ok [b] : Except ClassFault (List Base)) fun bases => ∀ base ∈ bases, base.Below count :=
    fun below => by simpa using below
  unfold ofBase
  split
  · exact below_ofAlias _ _
  · split
    · exact one trivial
    · exact yields_error
  next a _ _ written =>
    rw [written] at covered
    split
    next found => exact one (below_classOf? covered found)
    next => exact one trivial
  next written =>
    rw [written] at covered
    exact one covered.1
  · exact one trivial
  · exact below_ofAlias _ _
  · exact ite_yields (by simp) (one trivial)
  · exact one trivial
  · exact yields_error
  · exact yields_error
  next written =>
    rw [written, Form.Over] at covered
    split
    next found => exact one (below_classOf? covered.1 found)
    next => exact one trivial
  · exact one trivial

theorem below_resolved {forms : List Form} (before : List Form)
    (covered : ∀ form ∈ forms, form.Over (·.number < count)) :
    Yields (resolved world before forms) fun bases => ∀ base ∈ bases, base.Below count := by
  induction forms generalizing before with
  | nil => simp [resolved]
  | cons form later ih =>
    rw [List.forall_mem_cons] at covered
    rw [resolved]
    refine (below_ofBase covered.1).bind fun first here => ?_
    refine (ih _ covered.2).bind fun others behind => yields_pure.mpr ?_
    exact List.forall_mem_append.mpr ⟨here, behind⟩

theorem below_classes {bases : List Base} (below : ∀ base ∈ bases, base.Below count) :
    ∀ c ∈ classes bases, c.Below count := by
  intro c member
  obtain ⟨base, inside, made⟩ := List.mem_filterMap.mp member
  cases base with
  | made d =>
    cases made
    exact below _ inside
  | value => cases made

/-- The ancestors of a class are the merged lineages of its bases. -/
theorem ofBases_of_ancestors {bases merged : List Ancestor}
    (found : ancestors world bases = .ok merged) :
    Lineage.ofBases (Ancestor.lineage world) bases = .ok merged := by
  unfold ancestors at found
  split at found
  · cases found
  · rcases kept : Lineage.ofBases (Ancestor.lineage world) bases with heads | ancestors <;>
      rw [kept] at found <;> cases found
    rfl

/-- The ancestors of a class are among the classes that are there when its bases and their
lineages are. -/
theorem below_ancestors {bases : List Ancestor} (below : ∀ base ∈ bases, base.Below count)
    (closed : ∀ base ∈ bases, ∀ ancestor ∈ base.lineage world, ancestor.Below count) :
    Yields (ancestors world bases) fun ancestors => ∀ ancestor ∈ ancestors, ancestor.Below count := by
  intro found merged ancestor member
  rcases Lineage.mem_of_ofBases _ (ofBases_of_ancestors merged) ancestor member with
    own | ⟨base, inside, behind⟩
  · exact below ancestor own
  · exact closed base inside ancestor behind

/-! ## Arguments -/

variable {p : ClassRef → Prop}

theorem over_baseArguments {record : ClassRecord} (covered : world.Over p) :
    Yields (world.baseArguments record) fun entries => ∀ entry ∈ entries, entry.2.Over p := by
  intro entries found
  unfold World.baseArguments at found
  rcases asked : world.inherited? record.lineage ClassRecord.argued with _ | argued <;>
    rw [asked] at found
  · cases found
    exact nofun
  · obtain ⟨ancestor, member, kept⟩ := World.exists_of_inherited? asked
    obtain rfl : argued = .ok entries := found
    exact (covered.records ancestor (World.mem_of_mem_records member)).argued entries kept

/-- The arguments of a base mention what the base mentions, and what the bases behind it do. -/
theorem over_argumentsOf (covered : world.Over p) {base : Form} (here : base.Over p) :
    Yields (argumentsOf world base) fun entries => ∀ entry ∈ entries, entry.2.Over p := by
  unfold argumentsOf
  split
  next c arguments =>
    rw [Form.Over, Form.allOver_iff] at here
    have later : Yields (behind world c) fun entries => ∀ entry ∈ entries, entry.2.Over p := by
      unfold behind
      split
      · exact over_baseArguments covered
      · simp
    refine later.map fun entries each => ?_
    rw [List.forall_mem_append]
    exact ⟨fun entry member => here.2 _ (List.of_mem_zip member).2, each⟩
  · simp

theorem over_allArguments (covered : world.Over p) {bases : List Form}
    (each : ∀ base ∈ bases, base.Over p) :
    Yields (allArguments world bases) fun entries => ∀ entry ∈ entries, entry.2.Over p := by
  unfold allArguments
  refine (yields_mapM fun base member => over_argumentsOf covered (each base member)).bind
    fun lists here => yields_pure.mpr fun entry member => ?_
  obtain ⟨list, inside, among⟩ := List.mem_flatten.mp member
  exact here list inside entry among

end Bases

end TypeContracts
