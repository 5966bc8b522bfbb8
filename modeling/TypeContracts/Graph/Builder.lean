import TypeContracts.Mapping.Rules

/-!
# The state of a graph build

What a build keeps between steps: the declarations made so far, the types that wait for
theirs, and the names that instantiations have taken. A type waits at most once and
never after it has been declared. A declaration that is in the cache stays there as it
is; only a new instantiation may be renamed, when another has taken its name.
-/

set_option autoImplicit false

namespace TypeContracts

/-- The state of a graph build. Lists are in the order of insertion. -/
structure Builder (Loader : Type) where
  cache : List (Identity × Declaration) := []
  pending : List (Identity × Host Loader) := []
  queue : List (Host Loader) := []
  taken : List (String × Identity) := []
  journal : List Event := []

namespace Builder

variable {Loader : Type}

instance : Inhabited (Builder Loader) := ⟨{}⟩

/-! ## Queueing -/

/-- The identity has a declaration. -/
def isCached (builder : Builder Loader) (identity : Identity) : Bool :=
  builder.cache.any fun entry => entry.1 == identity

/-- The identity waits for its declaration. -/
def isPending (builder : Builder Loader) (identity : Identity) : Bool :=
  builder.pending.any fun entry => entry.1 == identity

/-- The declaration of an identity. -/
def declaration? (builder : Builder Loader) (identity : Identity) : Option Declaration :=
  (builder.cache.find? fun entry => entry.1 == identity).map Prod.snd

/-- Queues a type, unless it is declared or waiting. -/
def require (host : Host Loader) (builder : Builder Loader) : Builder Loader :=
  let identity := host.identity
  if builder.isCached identity || builder.isPending identity then builder
  else
    { builder with
      pending := builder.pending ++ [(identity, host)]
      queue := builder.queue ++ [host] }

/-- Reports an event. -/
def report (event : Event) (builder : Builder Loader) : Builder Loader :=
  { builder with journal := builder.journal ++ [event] }

/-! ## Registering -/

/-- A name with a number behind it. -/
def numbered (base : String) (number : Nat) : String := base ++ toString number

/-- The instantiation that has taken a name. -/
def owner? (taken : List (String × Identity)) (name : String) : Option Identity :=
  (taken.find? fun entry => entry.1 == name).map Prod.snd

/-- The first of `name`, then the base name with `number`, `number + 1` and so on, that no
other instantiation has taken, with the names taken afterwards. One try more than there
are taken names always suffices. -/
def freeName (identity : Identity) (base : String) (taken : List (String × Identity)) :
    Nat → Nat → String → String × List (String × Identity)
  | 0, _, name => (name, taken)
  | tries + 1, number, name =>
    match owner? taken name with
    | none => (name, taken ++ [(name, identity)])
    | some owner =>
      if owner = identity then (name, taken)
      else freeName identity base taken tries (number + 1) (numbered base number)

/-- The name that a new declaration gets, with the names taken afterwards. Only
instantiations take names. -/
def nameFor (builder : Builder Loader) (declaration : Declaration) :
    String × List (String × Identity) :=
  if declaration.identity.arguments.isEmpty then (declaration.name, builder.taken)
  else
    freeName declaration.identity declaration.name builder.taken (builder.taken.length + 1) 2
      declaration.name

/-- The state after an instantiation has got another name. -/
def reportRenaming (declaration : Declaration) (name : String) (builder : Builder Loader) :
    Builder Loader :=
  if name = declaration.name then builder
  else builder.report (.renamed declaration.identity name)

/-- Registers a declaration, unless its identity is declared already. -/
def register (declaration : Declaration) (builder : Builder Loader) : Builder Loader :=
  if builder.isCached declaration.identity then builder
  else
    let (name, taken) := builder.nameFor declaration
    let named := if name = declaration.name then declaration else declaration.rename name
    let builder := builder.reportRenaming declaration name
    { builder with
      cache := builder.cache ++ [(declaration.identity, named)]
      taken := taken }

/-- What a build offers to the mapping rules. -/
def services : Services Loader (Builder Loader) := ⟨require, register, report⟩

/-! ## Leaving the queue -/

/-- The queue without its first type, which no longer waits. -/
def dequeue (host : Host Loader) (rest : List (Host Loader)) (builder : Builder Loader) :
    Builder Loader :=
  { builder with
    queue := rest
    pending := builder.pending.filter fun entry => entry.1 != host.identity }

end Builder

end TypeContracts
