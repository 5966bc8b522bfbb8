import TypeContracts.Source.Library.Basic

/-!
# Typing names

The names that stand for types without being classes of their own. An alias stands for a
class of the library and fixes the number of its arguments; a special form has rules of its
own.
-/

set_option autoImplicit false

namespace TypeContracts

/-! ## Aliases -/

/-- How many type arguments an alias takes. -/
inductive Arity where
  | exactly (count : Nat)
  | any
  | call
deriving DecidableEq, Repr

/-- A typing name that stands for a class of the library. -/
structure Alias where
  name : String
  origin : LibraryClass
  arity : Arity
deriving DecidableEq, Repr

namespace Alias

/-- The aliases for built-in classes and for collections. -/
def plain : List Alias :=
  [⟨"List", .builtin "list", .exactly 1⟩, ⟨"Dict", .builtin "dict", .exactly 2⟩,
    ⟨"Tuple", .builtin "tuple", .any⟩, ⟨"Set", .builtin "set", .exactly 1⟩,
    ⟨"FrozenSet", .builtin "frozenset", .exactly 1⟩, ⟨"Type", .builtin "type", .exactly 1⟩,
    ⟨"Deque", ⟨"collections", "deque"⟩, .exactly 1⟩,
    ⟨"DefaultDict", ⟨"collections", "defaultdict"⟩, .exactly 2⟩,
    ⟨"OrderedDict", ⟨"collections", "OrderedDict"⟩, .exactly 2⟩,
    ⟨"Counter", ⟨"collections", "Counter"⟩, .exactly 1⟩,
    ⟨"ChainMap", ⟨"collections", "ChainMap"⟩, .exactly 2⟩,
    ⟨"AbstractSet", .container "Set", .exactly 1⟩,
    ⟨"Callable", .container "Callable", .call⟩]

/-- The abstract containers that have an alias of their own name, by the number of its
arguments. -/
def abstractNames : List (Nat × List String) :=
  [(0, ["Hashable", "Sized", "ByteString"]),
   (1, ["Sequence", "MutableSequence", "Iterable", "Iterator", "Awaitable", "Collection",
     "MutableSet", "AsyncIterable", "AsyncIterator", "Reversible", "Container", "MappingView",
     "KeysView", "ValuesView"]),
   (2, ["Mapping", "MutableMapping", "ItemsView", "AsyncGenerator"]),
   (3, ["Coroutine", "Generator"])]

/-- The typing aliases. -/
def all : List Alias :=
  plain ++ abstractNames.flatMap fun (count, names) =>
    names.map fun name => ⟨name, .container name, .exactly count⟩

/-- The alias with a name. -/
def find? (name : String) : Option Alias := all.find? (·.name = name)

/-- The text of an alias. -/
def text (a : Alias) : String := "typing." ++ a.name

end Alias

/-! ## Special forms -/

/-- A typing name with rules of its own. -/
inductive Special where
  | union
  | optional
  | literal
  | classVariable
  | final
  | annotated
  | generic
  | protocol
  | initVariable
deriving DecidableEq, Repr

namespace Special

/-- The name of a special form. -/
def name : Special → String
  | .union => "Union"
  | .optional => "Optional"
  | .literal => "Literal"
  | .classVariable => "ClassVar"
  | .final => "Final"
  | .annotated => "Annotated"
  | .generic => "Generic"
  | .protocol => "Protocol"
  | .initVariable => "InitVar"

/-- The special forms of the space of typing. -/
def all : List Special :=
  [.union, .optional, .literal, .classVariable, .final, .annotated, .generic, .protocol]

/-- The special form with a name. -/
def find? (name : String) : Option Special := all.find? (·.name = name)

/-- The class that a special form is, if it is one. -/
def class? : Special → Option LibraryClass
  | .annotated => some (.typing "Annotated")
  | .generic => some .generic
  | .protocol => some .protocol
  | .initVariable => some .initVariable
  | _ => none

/-- The full name of a special form. -/
def fullName : Special → String
  | .initVariable => "dataclasses.InitVar"
  | s => "typing." ++ s.name

/-- The special form is a class. -/
def isClass (s : Special) : Bool := s.class?.isSome

end Special

end TypeContracts
