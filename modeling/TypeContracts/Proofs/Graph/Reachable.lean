import TypeContracts.Graph.Walk
import TypeContracts.Proofs.Mapping.Occurrences

/-!
# The types that a walk comes across

A walk comes across its roots, the parts of types that are written in place, and the types
of the members of objects. It does not look into a type that stands for a hand-written one
(`Graph.Reachable`).

A cache holds declarations of such types only: those of objects and enumerations, and the
aliases for nullable types and for dates (`Graph.Justified`). The two sorts do not mix when
occurrences with the same identity describe the same type, dates have no arguments, and
the identity of the alias for nullable types is not used otherwise (`Graph.Coherent`).
-/

set_option autoImplicit false

namespace TypeContracts.Graph

open Mapping

variable {Handle Loader : Type}

/-! ## Reachable types -/

/-- The walk from the roots comes across the type. -/
inductive Reachable (setting : Setting Handle Loader) (targets : List (String × HandWritten))
    (roots : List Handle) : Host Loader → Prop where
  | root {handle : Handle} {host : Host Loader} (listed : handle ∈ roots)
    (described : setting.describe handle = .ok host) : Reachable setting targets roots host
  | part {host part : Host Loader} (reached : Reachable setting targets roots host)
    (free : isClaimed targets host = false) (inside : part ∈ host.parts) :
    Reachable setting targets roots part
  | member {host : Host Loader} {members : List (HostMember Loader)} {member : HostMember Loader}
    (reached : Reachable setting targets roots host) (free : isClaimed targets host = false)
    (kind : host.kind = .object) (loaded : host.members setting.source = .ok members)
    (listed : member ∈ members) : Reachable setting targets roots member.type

/-- Two occurrences agree in everything but nullability, and load the same members. -/
def Agree (source : MemberSource Loader) (a b : Host Loader) : Prop :=
  ({ a with nullable := false, loader := none } : Host Loader) =
      { b with nullable := false, loader := none } ∧
    a.members source = b.members source

/-- Identities tell the reachable types apart. -/
structure Coherent (setting : Setting Handle Loader) (targets : List (String × HandWritten))
    (roots : List Handle) : Prop where
  agree : ∀ a b, Reachable setting targets roots a → Reachable setting targets roots b →
    a.identity = b.identity → Agree setting.source a b
  dates : ∀ host, Reachable setting targets roots host → host.kind = .date → host.arguments = []
  unreserved : ∀ host, Reachable setting targets roots host → host.identity ≠ nullableIdentity

/-- The type has a declaration of its own. -/
def owns (targets : List (String × HandWritten)) (host : Host Loader) : Bool :=
  !isClaimed targets host && host.kind.isDeclared

variable {setting : Setting Handle Loader} {targets : List (String × HandWritten)}
  {roots : List Handle}

theorem owns_iff {host : Host Loader} :
    owns targets host = true ↔ isClaimed targets host = false ∧ host.kind.isDeclared = true := by
  simp [owns]

/-- A type that stands for a hand-written one has no declaration of its own. -/
theorem owns_of_claimed {host : Host Loader} (taken : isClaimed targets host = true) :
    owns targets host = false := by
  rw [owns, taken]
  rfl

/-- A type that is written in place has no declaration of its own. -/
theorem owns_of_plain {host : Host Loader} (plain : host.kind.isDeclared = false) :
    owns targets host = false := by
  rw [owns, plain, Bool.and_false]

theorem partsClosed_reachable : PartsClosed targets (Reachable setting targets roots) :=
  fun _ _ reached free inside => .part reached free inside

/-- What a reachable type asks for is reachable and has a declaration of its own. -/
theorem Reachable.of_mem_successors {host : Host Loader} {found : List (Host Loader)}
    (reached : Reachable setting targets roots host)
    (next : successors targets setting.source host = .ok found) :
    ∀ successor ∈ found, Reachable setting targets roots successor ∧
      owns targets successor = true := by
  have asked : ∀ {origin occurrence}, Reachable setting targets roots origin →
      occurrence ∈ occurrences targets origin →
        Reachable setting targets roots occurrence ∧ owns targets occurrence = true := by
    intro origin occurrence reached member
    obtain ⟨holds, free, declared⟩ := of_mem_occurrences partsClosed_reachable reached member
    exact ⟨holds, owns_iff.mpr ⟨free, declared⟩⟩
  rw [successors] at next
  split_ifs at next with claimed object
  · cases next
    simp
  · cases loaded : host.members setting.source with
    | error fault => rw [loaded] at next; cases next
    | ok members =>
      rw [loaded] at next
      cases next
      intro successor member
      obtain ⟨inner, listed, member⟩ := List.mem_flatMap.mp member
      exact asked (.member reached (by simpa using claimed) object loaded listed) member
  · cases next
    intro successor member
    obtain ⟨part, inside, member⟩ := List.mem_flatMap.mp member
    exact asked (.part reached (by simpa using claimed) inside) member

/-! ## Occurrences of the same type -/

namespace Agree

variable {source : MemberSource Loader} {a b : Host Loader}

theorem kind (same : Agree source a b) : a.kind = b.kind := by
  have shape := congrArg Host.kind same.1
  exact shape

theorem fullName (same : Agree source a b) : a.fullName = b.fullName := by
  have shape := congrArg Host.fullName same.1
  exact shape

theorem parts (same : Agree source a b) : a.parts = b.parts := by
  have shape := congrArg Host.parts same.1
  exact shape

theorem isClaimed (same : Agree source a b) :
    Mapping.isClaimed targets a = Mapping.isClaimed targets b := by
  rw [Mapping.isClaimed, Mapping.isClaimed, same.fullName]

theorem owns (same : Agree source a b) : Graph.owns targets a = Graph.owns targets b := by
  rw [Graph.owns, Graph.owns, same.kind, same.isClaimed]

/-- Occurrences of the same type ask for the same types. -/
theorem successors (same : Agree source a b) :
    Mapping.successors targets source a = Mapping.successors targets source b := by
  rw [Mapping.successors, Mapping.successors, same.isClaimed, same.kind, same.parts, same.2]

end Agree

/-! ## What a cache may hold -/

/-- The declaration is the alias for nullable types or that of a date. No object and no
enumeration is declared as an intersection. -/
def isSynthesized (declaration : Declaration) : Bool :=
  declaration.identity == nullableIdentity ||
    match declaration with
    | .alias _ _ (.intersection _) _ => true
    | _ => false

/-- An entry of a cache that a reachable type accounts for. -/
inductive Justified (setting : Setting Handle Loader) (targets : List (String × HandWritten))
    (roots : List Handle) : Identity × Declaration → Prop where
  | own {host : Host Loader} {declaration : Declaration}
    (reached : Reachable setting targets roots host) (owned : owns targets host = true)
    (plain : isSynthesized declaration = false) :
    Justified setting targets roots (host.identity, declaration)
  | synthesized {declaration : Declaration} (name : String)
    (synthesized : Synthesized setting.options targets (Reachable setting targets roots)
      declaration) :
    Justified setting targets roots (declaration.identity, declaration.rename name)

theorem isSynthesized_of_synthesized {options : Options} {property : Host Loader → Prop}
    {declaration : Declaration} (synthesized : Synthesized options targets property declaration)
    (name : String) : isSynthesized (declaration.rename name) = true := by
  cases synthesized with
  | nullable => simp [isSynthesized, nullableAlias, Declaration.rename, Declaration.identity]
  | branded => simp [isSynthesized, brandedDate, Declaration.rename]

theorem isSynthesized_interface {identity : Identity} (other : identity ≠ nullableIdentity)
    (name : String) (members : List Member) :
    isSynthesized (.interface identity name members) = false := by
  simp [isSynthesized, Declaration.identity, other]

theorem nameUnion_ne_intersection (members : List EnumMember) (parts : List TypeRef) :
    nameUnion members ≠ .intersection parts := by
  rcases members with _ | ⟨first, _ | ⟨second, rest⟩⟩ <;> simp [nameUnion]

theorem isSynthesized_enumeration {host : Host Loader} (other : host.identity ≠ nullableIdentity)
    (style : EnumStyle) (name : String) :
    isSynthesized ((Mapping.enumeration style host).rename name) = false := by
  cases style with
  | numeric => simp [isSynthesized, Mapping.enumeration, Declaration.rename, Declaration.identity,
      other]
  | stringUnion =>
    simp only [isSynthesized, Mapping.enumeration, Declaration.rename, Declaration.identity]
    split
    next form =>
      simp only [Declaration.alias.injEq] at form
      exact absurd form.2.2.1 (nameUnion_ne_intersection _ _)
    next => simp [other]

/-- A date without arguments is declared under its own identity. -/
theorem identity_brandedDate {host : Host Loader} (plain : host.arguments = []) :
    (brandedDate host).identity = host.identity := by
  cases host
  simp only at plain
  subst plain
  rfl

namespace Coherent

variable (coherent : Coherent setting targets roots)

include coherent

/-- The aliases have no identity of an object or an enumeration. -/
theorem synthesized_ne {declaration : Declaration}
    (synthesized : Synthesized setting.options targets (Reachable setting targets roots)
      declaration)
    {host : Host Loader} (reached : Reachable setting targets roots host)
    (declared : host.kind.isDeclared = true) : declaration.identity ≠ host.identity := by
  intro same
  cases synthesized with
  | nullable => exact coherent.unreserved host reached same.symm
  | @branded date dated free kind style =>
    rw [identity_brandedDate (coherent.dates date dated kind)] at same
    have kinds := (coherent.agree date host dated reached same).kind
    rw [← kinds, kind] at declared
    cases declared

/-- What is declared under the identity of an object or an enumeration is its own. -/
theorem own_of_justified {entry : Identity × Declaration}
    (justified : Justified setting targets roots entry) {host : Host Loader}
    (reached : Reachable setting targets roots host) (declared : host.kind.isDeclared = true)
    (same : entry.1 = host.identity) :
    owns targets host = true ∧ isSynthesized entry.2 = false := by
  cases justified with
  | @own other declaration reached' owned plain =>
    exact ⟨(coherent.agree other host reached' reached same).owns ▸ owned, plain⟩
  | synthesized name synthesized =>
    exact absurd same (coherent.synthesized_ne synthesized reached declared)

/-- What is declared under the identity of any other type asks for nothing. -/
theorem successors_of_justified {entry : Identity × Declaration}
    (justified : Justified setting targets roots entry) {host : Host Loader}
    (reached : Reachable setting targets roots host) (plain : host.kind.isDeclared = false)
    (same : entry.1 = host.identity) :
    successors targets setting.source host = .ok [] := by
  cases justified with
  | @own other declaration reached' owned plain' =>
    have owned' := (coherent.agree other host reached' reached same).owns ▸ owned
    rw [owns_iff, plain] at owned'
    cases owned'.2
  | synthesized name synthesized =>
    cases synthesized with
    | nullable => exact absurd same.symm (coherent.unreserved host reached)
    | @branded date dated free kind style =>
      have same' : date.identity = host.identity :=
        (identity_brandedDate (coherent.dates date dated kind)).symm.trans same
      have agree := coherent.agree date host dated reached same'
      rw [← agree.successors]
      exact successors_of_parts_eq_nil free (by rw [kind]; decide) (by rw [Host.parts, kind])

end Coherent

end TypeContracts.Graph
