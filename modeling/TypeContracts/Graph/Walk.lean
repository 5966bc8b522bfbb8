import TypeContracts.Graph.Units

/-!
# Walking the graph

A build starts from its root types and works through a queue: each type that leaves it
is mapped, which may queue the types that it refers to and register declarations. When
the queue is empty, the declarations are spread over units.

A step limit bounds the walk, because the types that can be reached need not be finite
in number. A walk that the limit cuts off ends in the fault `exhausted`.
-/

set_option autoImplicit false

namespace TypeContracts.Graph

variable {Handle Loader : Type}

/-- What a build depends on: the options, the override, the layout, and the provider that
describes root types and loads members. -/
structure Setting (Handle Loader : Type) where
  options : Options
  override : Override Loader
  layout : Layout
  describe : Handle → Except Fault (Host Loader)
  source : MemberSource Loader

/-- A step of a build. -/
abbrev BuildM (Loader : Type) := MappingM (Builder Loader)

/-- The mapping rules of a build. -/
def Setting.mapper (setting : Setting Handle Loader) : Mapper Loader (Builder Loader) :=
  ⟨setting.options, setting.override, setting.source, Builder.services⟩

/-- A result that does not touch the state of a build. -/
def settled {α : Type} (result : Except Fault α) : BuildM Loader α :=
  match result with
  | .ok value => pure value
  | .error fault => throw fault

/-- Queues the root types. -/
def enqueueRoots (setting : Setting Handle Loader) : List Handle → BuildM Loader Unit
  | [] => return ()
  | handle :: rest => do
    let root ← settled (setting.describe handle)
    modify (Builder.require root)
    enqueueRoots setting rest

/-- Registers the declarations that a type was mapped to. -/
def registerAll (declarations : List Declaration) : BuildM Loader Unit :=
  modify fun builder => declarations.foldl (fun b d => b.register d) builder

/-- Maps a type that has left the queue, unless it has been declared meanwhile. -/
def mapHost (setting : Setting Handle Loader) (host : Host Loader) : BuildM Loader Unit := do
  let identity := host.identity
  if (← get).isCached identity then return ()
  modify (Builder.report (.mapping identity))
  match ← setting.mapper.mapType host with
  | .inline _ => modify (Builder.report (.inlined identity))
  | .declarations declarations =>
    registerAll declarations
    if !(← get).isCached identity then throw (.unmappable identity.text .noDeclaration)

/-- Works through the queue, for at most the given number of types. -/
def drain (setting : Setting Handle Loader) : Nat → BuildM Loader Unit
  | 0 => do if !(← get).queue.isEmpty then throw .exhausted
  | limit + 1 => do
    match (← get).queue with
    | [] => return ()
    | host :: rest =>
      modify (Builder.dequeue host rest)
      mapHost setting host
      drain setting limit

/-- The walk from the root types: all declarations that they need are made. -/
def walk (setting : Setting Handle Loader) (limit : Nat) (roots : List Handle) :
    BuildM Loader Unit := do
  enqueueRoots setting roots
  drain setting limit

/-- A build: the walk, and the units of what it declared. -/
def build (setting : Setting Handle Loader) (limit : Nat) (roots : List Handle) :
    BuildM Loader (List OutputUnit) := do
  walk setting limit roots
  let cache := (← get).cache
  let units ← settled (Graph.units setting.options setting.layout cache)
  modify (Builder.report (.built cache.length units.length))
  return units

end TypeContracts.Graph
