import Mathlib.Data.List.Forall2
import Mathlib.Data.List.Nodup
import Mathlib.Data.List.Perm.Subperm
import TypeContracts.Proofs.Declaration.Literal
import TypeContracts.Proofs.Graph.Calls

/-!
# The names of instantiations

An instantiation whose name another instantiation carries gets a number. The names that are
tried are the base name, then the base name with 2, with 3 and so on (`Builder.tried`). They all
differ, so that one try more than there are names taken finds one that is free
(`Builder.findsName_freeName`): the search ends, although a name with a number may be the base
name of another declaration.

The names that are taken are those that the instantiations of the cache carry, each one once
(`Builder.Numbered`); no try leaves a name behind that is not used. Every step of a builder keeps
it so. Hence the name of an instantiation is the first that was free when it came, whatever comes
later (`Builder.numbering_of_registered`).
-/

set_option autoImplicit false

namespace TypeContracts.Builder

variable {Loader : Type}

/-! ## The names that are tried -/

/-- The names that are tried for an instantiation, in their order. -/
def tried (base : String) : Nat → String
  | 0 => base
  | k + 1 => numbered base (k + 2)

/-- The name is the first of those that are tried that is not among the given ones. -/
def IsFirstFree (names : List String) (base name : String) : Prop :=
  ∃ k, name = tried base k ∧ name ∉ names ∧ ∀ i < k, tried base i ∈ names

theorem numbered_ne (base : String) (number : Nat) : numbered base number ≠ base := by
  intro same
  have digits : base.toList ++ (Nat.repr number).toList = base.toList ++ [] := by
    rw [List.append_nil, ← String.toList_append]
    exact congrArg String.toList same
  exact (Literal.exists_digits number).1 (List.append_cancel_left digits)

theorem numbered_injective (base : String) : Function.Injective (numbered base) := by
  intro number other same
  have digits : base.toList ++ (Nat.repr number).toList =
      base.toList ++ (Nat.repr other).toList := by
    rw [← String.toList_append, ← String.toList_append]
    exact congrArg String.toList same
  have closed : (Nat.repr number).toList ++ [] = (Nat.repr other).toList ++ [] := by
    rw [List.append_nil, List.append_nil, List.append_cancel_left digits]
  exact (Literal.digits_append_inj (by simp) (by simp) closed).1

/-- No name is tried twice. -/
theorem tried_injective (base : String) : Function.Injective (tried base) := by
  intro i j same
  cases i with
  | zero =>
    cases j with
    | zero => rfl
    | succ j => exact absurd same.symm (numbered_ne base (j + 2))
  | succ i =>
    cases j with
    | zero => exact absurd same (numbered_ne base (i + 2))
    | succ j =>
      have number : i + 2 = j + 2 := numbered_injective base same
      omega

/-! ## The search -/

/-- The search for a name as it goes on without a limit: a name that nobody has taken is taken,
one that the instantiation has taken itself is used, and behind the name of another the next
number is tried. -/
inductive FindsName (identity : Identity) (base : String) (taken : List (String × Identity)) :
    Nat → String → String × List (String × Identity) → Prop where
  | free {number : Nat} {name : String} (idle : owner? taken name = none) :
    FindsName identity base taken number name (name, taken ++ [(name, identity)])
  | own {number : Nat} {name : String} (own : owner? taken name = some identity) :
    FindsName identity base taken number name (name, taken)
  | next {number : Nat} {name : String} {owner : Identity}
    {result : String × List (String × Identity)} (other : owner? taken name = some owner)
    (differs : owner ≠ identity)
    (rest : FindsName identity base taken (number + 1) (numbered base number) result) :
    FindsName identity base taken number name result

variable {taken : List (String × Identity)} {identity : Identity} {base name : String}

theorem owner?_eq_none_iff : owner? taken name = none ↔ name ∉ taken.map Prod.fst := by
  rw [owner?, Option.map_eq_none_iff, List.find?_eq_none, List.mem_map, not_exists]
  exact forall_congr' fun entry => by simp

theorem mem_of_owner? {owner : Identity} (found : owner? taken name = some owner) :
    (name, owner) ∈ taken := by
  obtain ⟨⟨name', owner'⟩, entry, rfl⟩ := Option.map_eq_some_iff.mp found
  have same : name' = name := by simpa using List.find?_some entry
  exact same ▸ List.mem_of_find?_eq_some entry

/-- Another instantiation has taken the name. -/
def IsBlocked (taken : List (String × Identity)) (identity : Identity) (name : String) : Prop :=
  ∃ owner, owner? taken name = some owner ∧ owner ≠ identity

/-- There are more names to try than names taken. -/
theorem exists_not_isBlocked (taken : List (String × Identity)) (identity : Identity)
    (base : String) : ∃ k < taken.length + 1, ¬ IsBlocked taken identity (tried base k) := by
  by_contra none
  have blocked : ∀ k < taken.length + 1, IsBlocked taken identity (tried base k) := by
    intro k below
    by_contra opened
    exact none ⟨k, below, opened⟩
  have distinct : ((List.range (taken.length + 1)).map (tried base)).Nodup :=
    List.nodup_range.map (tried_injective base)
  have inside : (List.range (taken.length + 1)).map (tried base) ⊆ taken.map Prod.fst := by
    intro name member
    obtain ⟨k, below, rfl⟩ := List.mem_map.mp member
    obtain ⟨owner, found, _⟩ := blocked k (List.mem_range.mp below)
    exact List.mem_map_of_mem (mem_of_owner? found)
  have short := (List.subperm_of_subset distinct inside).length_le
  rw [List.length_map, List.length_map, List.length_range] at short
  omega

/-- The search with a limit ends as the search without one, when a name within the limit is not
blocked. -/
theorem findsName_of_not_isBlocked {tries k : Nat}
    (opens : ∃ j, k ≤ j ∧ j < k + tries ∧ ¬ IsBlocked taken identity (tried base j)) :
    FindsName identity base taken (k + 2) (tried base k)
      (freeName identity base taken tries (k + 2) (tried base k)) := by
  induction tries generalizing k with
  | zero =>
    obtain ⟨j, above, below, _⟩ := opens
    omega
  | succ tries ih =>
    rw [freeName]
    cases found : owner? taken (tried base k) with
    | none => exact .free found
    | some owner =>
      by_cases same : owner = identity
      · subst same
        simp only [if_true]
        exact .own found
      · simp only [if_neg same]
        refine .next found same (ih (k := k + 1) ?_)
        obtain ⟨j, above, below, opened⟩ := opens
        have other : j ≠ k := by
          rintro rfl
          exact opened ⟨owner, found, same⟩
        exact ⟨j, by omega, by omega, opened⟩

/-- The search ends within its limit. -/
theorem findsName_freeName (taken : List (String × Identity)) (identity : Identity)
    (base : String) :
    FindsName identity base taken 2 base
      (freeName identity base taken (taken.length + 1) 2 base) := by
  obtain ⟨k, below, opened⟩ := exists_not_isBlocked taken identity base
  exact findsName_of_not_isBlocked (k := 0) ⟨k, Nat.zero_le k, by omega, opened⟩

/-- The search ends at the first name that is not blocked. -/
theorem FindsName.exists_tried {number : Nat} {result : String × List (String × Identity)}
    (finds : FindsName identity base taken number name result) {k : Nat} (counted : number = k + 2)
    (here : name = tried base k) :
    ∃ j, k ≤ j ∧ result.1 = tried base j ∧
      (∀ i, k ≤ i → i < j → IsBlocked taken identity (tried base i)) ∧
      ((owner? taken (tried base j) = none ∧ result.2 = taken ++ [(tried base j, identity)]) ∨
        (owner? taken (tried base j) = some identity ∧ result.2 = taken)) := by
  induction finds generalizing k with
  | free idle =>
    subst here
    exact ⟨k, le_rfl, rfl, fun i above below => by omega, .inl ⟨idle, rfl⟩⟩
  | own own =>
    subst here
    exact ⟨k, le_rfl, rfl, fun i above below => by omega, .inr ⟨own, rfl⟩⟩
  | next other differs rest ih =>
    subst here counted
    obtain ⟨j, above, ends, blocked, settled⟩ := ih (k := k + 1) rfl rfl
    refine ⟨j, by omega, ends, fun i above' below => ?_, settled⟩
    rcases Nat.eq_or_lt_of_le above' with rfl | later
    · exact ⟨_, other, differs⟩
    · exact blocked i later below

/-! ## Names that are taken -/

/-- The instantiations of a cache, with the names that they carry. -/
def instantiations (cache : List (Identity × Declaration)) : List (String × Identity) :=
  (cache.filter fun entry => !entry.1.arguments.isEmpty).map fun entry => (entry.2.name, entry.1)

theorem instantiations_append (front behind : List (Identity × Declaration)) :
    instantiations (front ++ behind) = instantiations front ++ instantiations behind := by
  simp [instantiations]

theorem instantiations_plain {declaration : Declaration} (plain : identity.arguments = []) :
    instantiations [(identity, declaration)] = [] := by
  simp [instantiations, plain]

theorem instantiations_applied {declaration : Declaration} (applied : identity.arguments ≠ []) :
    instantiations [(identity, declaration)] = [(declaration.name, identity)] := by
  simp [instantiations, applied]

/-- The names that are taken are those that the instantiations of the cache carry, each once. -/
structure Numbered (builder : Builder Loader) : Prop where
  taken : builder.taken = instantiations builder.cache
  apart : (builder.taken.map Prod.fst).Nodup

theorem numbered_empty : ({} : Builder Loader).Numbered := ⟨rfl, List.nodup_nil⟩

/-- The name that a new declaration is given: its own, or for an instantiation the first that no
instantiation of the cache carries. -/
structure IsGiven (cache : List (Identity × Declaration)) (declaration : Declaration)
    (name : String) : Prop where
  plain : declaration.identity.arguments = [] → name = declaration.name
  applied : declaration.identity.arguments ≠ [] →
    IsFirstFree ((instantiations cache).map Prod.fst) declaration.name name

/-- Only what is declared has taken a name. -/
theorem Numbered.mem_keys {builder : Builder Loader} (numbered : builder.Numbered)
    (member : (name, identity) ∈ builder.taken) : identity ∈ builder.keys := by
  rw [numbered.taken] at member
  obtain ⟨entry, inside, same⟩ := List.mem_map.mp member
  rw [← (Prod.mk.inj same).2]
  exact List.mem_map_of_mem (List.mem_of_mem_filter inside)

/-- A new instantiation takes the first free name, and no other. -/
theorem Numbered.nameFor_applied {builder : Builder Loader} (numbered : builder.Numbered)
    {declaration : Declaration} (new : declaration.identity ∉ builder.keys)
    (applied : declaration.identity.arguments ≠ []) :
    IsFirstFree (builder.taken.map Prod.fst) declaration.name (builder.nameFor declaration).1 ∧
      (builder.nameFor declaration).2 =
        builder.taken ++ [((builder.nameFor declaration).1, declaration.identity)] := by
  have found : builder.nameFor declaration =
      freeName declaration.identity declaration.name builder.taken (builder.taken.length + 1) 2
        declaration.name := by
    rw [nameFor, if_neg (by simpa using applied)]
  rw [found]
  obtain ⟨j, _, ends, blocked, settled⟩ :=
    (findsName_freeName builder.taken declaration.identity declaration.name).exists_tried
      (k := 0) rfl rfl
  rw [ends]
  -- The name cannot be one that the instantiation has taken before, since it is new.
  obtain ⟨idle, taken⟩ := settled.resolve_right fun own =>
    new (numbered.mem_keys (mem_of_owner? own.1))
  refine ⟨⟨j, rfl, owner?_eq_none_iff.mp idle, fun i below => ?_⟩, taken⟩
  obtain ⟨owner, found, _⟩ := blocked i (Nat.zero_le i) below
  exact List.mem_map_of_mem (mem_of_owner? found)

/-- A new declaration goes behind the cache under the name that it is given. -/
theorem Numbered.register_new {builder : Builder Loader} (numbered : builder.Numbered)
    {declaration : Declaration} (new : declaration.identity ∉ builder.keys) :
    ∃ name, IsGiven builder.cache declaration name ∧
      (builder.register declaration).cache =
        builder.cache ++ [(declaration.identity, declaration.rename name)] ∧
      (builder.register declaration).Numbered := by
  have made : (builder.register declaration).cache = builder.cache ++
        [(declaration.identity, declaration.rename (builder.nameFor declaration).1)] ∧
      (builder.register declaration).taken = (builder.nameFor declaration).2 := by
    rw [register, if_neg (mt isCached_iff.mp new)]
    refine ⟨?_, rfl⟩
    simp only [reportRenaming]
    split_ifs with same
    · rw [same, Declaration.rename_name]
    · rfl
  obtain ⟨cached, taken⟩ := made
  refine ⟨(builder.nameFor declaration).1, ?_, cached, ?_⟩
  · refine ⟨fun plain => by rw [nameFor, plain]; rfl, fun applied => ?_⟩
    rw [← numbered.taken]
    exact (numbered.nameFor_applied new applied).1
  · by_cases plain : declaration.identity.arguments = []
    · have kept : (builder.nameFor declaration).2 = builder.taken := by rw [nameFor, plain]; rfl
      refine ⟨?_, by rw [taken, kept]; exact numbered.apart⟩
      rw [taken, kept, cached, instantiations_append, instantiations_plain plain, List.append_nil,
        numbered.taken]
    · obtain ⟨⟨k, same, free, _⟩, kept⟩ := numbered.nameFor_applied new plain
      refine ⟨?_, ?_⟩
      · rw [taken, kept, cached, instantiations_append, instantiations_applied plain,
          Declaration.name_rename, numbered.taken]
      · rw [taken, kept, List.map_append, List.map_singleton, ← List.concat_eq_append]
        exact .concat free numbered.apart

/-- Every step keeps the names in order. -/
theorem Step.numbered {builder after : Builder Loader} (step : Step builder after)
    (numbered : builder.Numbered) : after.Numbered := by
  cases step with
  | require host =>
    rcases require_spec host builder with ⟨_, same⟩ | ⟨_, _, added⟩
    · rwa [same]
    · rw [added]
      exact ⟨numbered.taken, numbered.apart⟩
  | register declaration =>
    by_cases known : declaration.identity ∈ builder.keys
    · rwa [Builder.register, if_pos (isCached_iff.mpr known)]
    · obtain ⟨_, _, _, numbered'⟩ := numbered.register_new known
      exact numbered'
  | report event => exact ⟨numbered.taken, numbered.apart⟩
  | dequeue queue => exact ⟨numbered.taken, numbered.apart⟩

/-- So does whatever happens to a builder. -/
theorem Reaches.numbered {builder after : Builder Loader} (steps : builder.Reaches after)
    (numbered : builder.Numbered) : after.Numbered := by
  induction steps with
  | refl => exact numbered
  | tail _ step ih => exact step.numbered ih

/-- Instantiations of a cache with the same name are the same. -/
theorem Numbered.identity_eq {builder : Builder Loader} (numbered : builder.Numbered)
    {first second : Identity × Declaration} (listed : first ∈ builder.cache)
    (listed' : second ∈ builder.cache) (applied : first.1.arguments ≠ [])
    (applied' : second.1.arguments ≠ []) (same : first.2.name = second.2.name) :
    first.1 = second.1 := by
  have carried : ∀ entry ∈ builder.cache, entry.1.arguments ≠ [] →
      (entry.2.name, entry.1) ∈ builder.taken := by
    intro entry inside applied
    rw [numbered.taken]
    exact List.mem_map.mpr ⟨entry, List.mem_filter.mpr ⟨inside, by simpa using applied⟩, rfl⟩
  have pair := List.inj_on_of_nodup_map numbered.apart (carried first listed applied)
    (carried second listed' applied') same
  exact (Prod.mk.inj pair).2

/-! ## Declarations that are registered one after another -/

/-- The builder after declarations are registered one after another. -/
def registered (declarations : List Declaration) (builder : Builder Loader) : Builder Loader :=
  declarations.foldl (fun builder declaration => builder.register declaration) builder

theorem reaches_registered (declarations : List Declaration) (builder : Builder Loader) :
    builder.Reaches (registered declarations builder) := by
  induction declarations generalizing builder with
  | nil => exact .refl
  | cons declaration rest ih => exact .head (.register declaration builder) (ih _)

/-- What registering puts into the cache: the first declaration of every new identity, with
nothing but its name changed. -/
theorem exists_cache_registered (declarations : List Declaration) (builder : Builder Loader) :
    ∃ added, (registered declarations builder).cache = builder.cache ++ added ∧
      List.Forall₂ (fun declaration entry =>
          entry = (declaration.identity, declaration.rename entry.2.name))
        (Graph.firsts Declaration.identity builder.keys declarations) added := by
  induction declarations generalizing builder with
  | nil => exact ⟨[], (List.append_nil _).symm, .nil⟩
  | cons declaration rest ih =>
    obtain ⟨added, cached, renamed⟩ := ih (builder.register declaration)
    rw [Graph.firsts]
    rcases register_spec declaration builder with ⟨known, same⟩ | ⟨new, name, taken, journal, made⟩
    · rw [if_pos known]
      rw [same] at cached renamed
      exact ⟨added, by rw [registered, List.foldl_cons, same]; exact cached, renamed⟩
    · have front : (builder.register declaration).cache =
          builder.cache ++ [(declaration.identity, declaration.rename name)] := by rw [made]
      have keys' : (builder.register declaration).keys =
          builder.keys ++ [declaration.identity] := by
        rw [keys, front, List.map_append]
        rfl
      rw [if_neg new, ← keys']
      refine ⟨(declaration.identity, declaration.rename name) :: added, ?_, .cons ?_ renamed⟩
      · rw [front, List.append_assoc, List.singleton_append] at cached
        exact cached
      · rw [Declaration.name_rename]

theorem keys_registered (declarations : List Declaration) (builder : Builder Loader) :
    (registered declarations builder).keys = builder.keys ++
      (Graph.firsts Declaration.identity builder.keys declarations).map Declaration.identity := by
  obtain ⟨added, cached, renamed⟩ := exists_cache_registered declarations builder
  have same : (Graph.firsts Declaration.identity builder.keys declarations).map
      Declaration.identity = added.map Prod.fst := by
    rw [← List.forall₂_eq_eq_eq, List.forall₂_map_left_iff, List.forall₂_map_right_iff]
    exact renamed.imp fun declaration entry renamed => by rw [renamed]
  rw [keys, cached, List.map_append, same, keys]

/-- Registering declarations one after another on a new builder caches the first of each
identity, with nothing but its name changed. The search for a name ends; a declaration that is new
gets the name that it is given by what is cached before it, and keeps it; and no two
instantiations carry the same name. -/
theorem numbering_of_registered (earlier later : List Declaration) (declaration : Declaration) :
    let before : Builder Loader := registered earlier {}
    let after : Builder Loader := registered (earlier ++ declaration :: later) {}
    (declaration.identity.arguments ≠ [] →
        FindsName declaration.identity declaration.name before.taken 2 declaration.name
          (before.nameFor declaration)) ∧
      ((∀ other ∈ earlier, other.identity ≠ declaration.identity) → ∃ name,
        IsGiven before.cache declaration name ∧
          before.cache ++ [(declaration.identity, declaration.rename name)] <+: after.cache) ∧
      (∀ first ∈ after.cache, ∀ second ∈ after.cache, first.1 ≠ second.1 →
        first.1.arguments ≠ [] → second.1.arguments ≠ [] → first.2.name ≠ second.2.name) ∧
      List.Forall₂ (fun declaration entry =>
          entry = (declaration.identity, declaration.rename entry.2.name))
        (Graph.firsts Declaration.identity [] (earlier ++ declaration :: later)) after.cache := by
  intro before after
  have numbered : before.Numbered := (reaches_registered earlier {}).numbered numbered_empty
  have numbered' : after.Numbered :=
    (reaches_registered (earlier ++ declaration :: later) {}).numbered numbered_empty
  refine ⟨fun applied => ?_, fun new => ?_, ?_, ?_⟩
  · rw [nameFor, if_neg (by simpa using applied)]
    exact findsName_freeName before.taken declaration.identity declaration.name
  · have fresh : declaration.identity ∉ before.keys := by
      intro known
      rw [keys_registered] at known
      obtain ⟨other, first, same⟩ := List.mem_map.mp (show declaration.identity ∈
        (Graph.firsts Declaration.identity [] earlier).map Declaration.identity from known)
      exact new other (Graph.mem_of_mem_firsts first).1 same
    obtain ⟨name, given, cached, _⟩ := numbered.register_new fresh
    refine ⟨name, given, ?_⟩
    rw [← cached]
    have onwards : after = registered later (before.register declaration) := by
      simp only [after, before, registered, List.foldl_append, List.foldl_cons]
    rw [onwards]
    exact Reaches.cache_prefix (reaches_registered later (before.register declaration))
  · intro first listed second listed' differ applied applied' same
    exact differ (numbered'.identity_eq listed listed' applied applied' same)
  · obtain ⟨added, cached, renamed⟩ :=
      exists_cache_registered (earlier ++ declaration :: later) ({} : Builder Loader)
    rw [show after.cache = added from cached]
    exact renamed

/-- A page of users of another module gets the number 3, since the name with 2 is that of a page
of something else. -/
theorem numbering_of_registered_pages :
    let page (user name : String) : Declaration :=
      .interface ⟨"m.Page", [⟨user, [], false⟩], false⟩ name []
    let earlier := [page "a.User" "PageOfUser", page "a.User2" "PageOfUser2"]
    let declaration := page "b.User" "PageOfUser"
    (∀ other ∈ earlier, other.identity ≠ declaration.identity) ∧
      (∃ name, IsGiven (registered earlier ({} : Builder Unit)).cache declaration name ∧
        (registered earlier ({} : Builder Unit)).cache ++
            [(declaration.identity, declaration.rename name)] <+:
          (registered (earlier ++ [declaration]) ({} : Builder Unit)).cache) ∧
      (registered (earlier ++ [declaration]) ({} : Builder Unit)).cache.map (·.2.name) =
        ["PageOfUser", "PageOfUser2", "PageOfUser3"] := by
  intro page earlier declaration
  have new : ∀ other ∈ earlier, other.identity ≠ declaration.identity := by decide
  exact ⟨new, (numbering_of_registered earlier [] declaration).2.1 new, by decide +kernel⟩

end TypeContracts.Builder
