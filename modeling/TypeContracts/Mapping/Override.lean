import TypeContracts.Declaration.Basic
import TypeContracts.Host.Basic
import TypeContracts.Text.Case

/-!
# Overrides

An override may claim a host type before the rules see it. It answers by a `Request`:
either at once, or after it has asked the run to queue a type, to register a
declaration, or to work out a reference. Nothing else of a run is open to it.

The overrides of this module are the one that never claims, the one that points types
at hand-written modules, and the one that asks several others and refuses two claims.
-/

set_option autoImplicit false

namespace TypeContracts

/-- What an override puts in place of a type. -/
inductive Claim where
  | reference (value : TypeRef)
  | declaration (value : Declaration)
deriving Inhabited

/-- A course of requests that ends in an answer or a fault. -/
inductive Request (Loader : Type) where
  | answer (claim : Option Claim)
  | fail (fault : Fault)
  | require (host : Host Loader) (next : Request Loader)
  | register (declaration : Declaration) (next : Request Loader)
  | reference (host : Host Loader) (next : Except Fault TypeRef → Request Loader)

namespace Request

variable {Loader : Type}

instance : Inhabited (Request Loader) := ⟨.answer none⟩

/-- A course of requests followed by another that depends on its answer. -/
def andThen (course : Request Loader) (next : Option Claim → Request Loader) :
    Request Loader :=
  match course with
  | .answer claim => next claim
  | .fail fault => .fail fault
  | .require host rest => .require host (rest.andThen next)
  | .register declaration rest => .register declaration (rest.andThen next)
  | .reference host rest => .reference host fun result => (rest result).andThen next

end Request

/-- An override: its name, and what it does when it is asked about a type. -/
structure Override (Loader : Type) where
  name : String
  ask : Host Loader → Request Loader
deriving Inhabited

/-- A hand-written type: its name and the path of its module. -/
structure HandWritten where
  name : String
  path : String
deriving DecidableEq, Repr, Inhabited

namespace Override

variable {Loader : Type}

/-- The override that never claims a type. -/
def silent : Override Loader := ⟨"null", fun _ => .answer none⟩

/-- The hand-written type for a full name. -/
def target? (targets : List (String × HandWritten)) (fullName : String) : Option HandWritten :=
  (targets.find? fun entry => entry.1 == fullName).map Prod.snd

/-- The override that points full names at hand-written types. -/
def paths (targets : List (String × HandWritten)) : Override Loader :=
  ⟨"paths", fun host =>
    .answer ((target? targets host.fullName).map fun written =>
      .reference (.imported written.name written.path))⟩

/-- Settles the claims that several overrides have made. -/
def settle (host : Host Loader) (claims : List (String × Claim)) : Request Loader :=
  match claims with
  | [] => .answer none
  | [(_, claim)] => .answer (some claim)
  | _ => .fail (.ambiguous host.identity.text (claims.map Prod.fst))

/-- Asks the overrides in turn, after those that have already claimed. -/
def askAll (host : Host Loader) (claims : List (String × Claim)) :
    List (Override Loader) → Request Loader
  | [] => settle host claims
  | override :: rest =>
    (override.ask host).andThen fun
      | none => askAll host claims rest
      | some claim => askAll host (claims ++ [(override.name, claim)]) rest

/-- The override that asks all of the given ones; two claims are a fault. -/
def composite (overrides : List (Override Loader)) : Override Loader :=
  ⟨"composite", fun host => askAll host [] overrides⟩

end Override

/-! ## Selecting overrides -/

/-- What an entry of the registry loads to. -/
inductive Loaded where
  | override (name : String)
  | shapeless
  | failure (message : String)
deriving DecidableEq, Repr

/-- An entry of the registry of overrides. -/
structure RegistryEntry where
  name : String
  loaded : Loaded
deriving DecidableEq, Repr

/-- Why overrides cannot be selected. -/
inductive SelectionFault where
  | loadFailed (entry message : String)
  | shapeless (entry : String)
  | unknown (names : List String)
deriving DecidableEq, Repr

/-- The report of a failed selection. -/
def SelectionFault.message : SelectionFault → String
  | .loadFailed entry message =>
    "Failed to load override entry point '" ++ entry ++ "': " ++ message
  | .shapeless entry => "Override entry point '" ++ entry ++ "' does not provide try_map()"
  | .unknown names => "Unknown overrides requested: " ++ Text.join ", " names

namespace RegistryEntry

/-- The name of the override behind an entry. -/
def load (entry : RegistryEntry) : Except SelectionFault String :=
  match entry.loaded with
  | .override name => .ok name
  | .shapeless => .error (.shapeless entry.name)
  | .failure message => .error (.loadFailed entry.name message)

/-- The names of all overrides of a registry. -/
def loadAll (entries : List RegistryEntry) : Except SelectionFault (List String) :=
  entries.mapM load

/-- Loads the entries that are wanted. A wanted name is used up by the first entry that
bears it; names are compared in lower case. -/
def loadWanted (wanted : List String) : List RegistryEntry → Except SelectionFault (List String)
  | [] =>
    if wanted.isEmpty then .ok []
    else .error (.unknown (wanted.mergeSort fun a b => decide (a ≤ b)))
  | entry :: rest =>
    let key := Text.lower entry.name
    if wanted.contains key then do
      let name ← entry.load
      return name :: (← loadWanted (wanted.filter (· != key)) rest)
    else loadWanted wanted rest

/-- The names of the selected overrides: all of them, or those with a wanted name. -/
def select (entries : List RegistryEntry) (wanted : Option (List String)) :
    Except SelectionFault (List String) :=
  match wanted with
  | none => loadAll entries
  | some names => loadWanted (names.map Text.lower).eraseDups entries

end RegistryEntry

end TypeContracts
