import TypeContracts.Source.Library.Basic
import TypeContracts.Source.Lineage

/-!
# The lineages of library classes

The bases of each class, and what follows for classes that are derived from it: its
lineage, the class of classes that it is made by, and the storage of its instances. A class
can only have bases of one storage, or of storages each of which extends the other.
-/

set_option autoImplicit false

namespace TypeContracts

/-! ## Classes of classes -/

/-- The class of a class: what makes it and decides how it is asked. -/
inductive Metaclass where
  | plain
  | abstract
  | protocol
  | anything
  | enumeration
deriving DecidableEq, Repr, Inhabited

namespace Metaclass

/-- The name of a class of classes. -/
def name : Metaclass → String
  | .plain => "type"
  | .abstract => "ABCMeta"
  | .protocol => "_ProtocolMeta"
  | .anything => "_AnyMeta"
  | .enumeration => "EnumType"

/-- The first class of classes is the second or derived from it. -/
def extendsTo (a b : Metaclass) : Bool :=
  a = b || b = .plain || (a = .protocol && b = .abstract)

/-- The names that every class has from its class of classes. -/
def attributes : Metaclass → List String
  | .plain | .anything => ["mro"]
  | .abstract | .protocol =>
    ["mro", "register", "_dump_registry", "_abc_registry_clear", "_abc_caches_clear",
      "_abc_impl"]
  | .enumeration => ["mro"]

end Metaclass

namespace LibraryClass

/-! ## Bases -/

/-- The bases of the abstract containers that are more than objects. -/
def containerBases : List (String × List String) :=
  [("Coroutine", ["Awaitable"]), ("AsyncIterator", ["AsyncIterable"]),
   ("AsyncGenerator", ["AsyncIterator"]), ("Iterator", ["Iterable"]),
   ("Generator", ["Iterator"]), ("Reversible", ["Iterable"]),
   ("Collection", ["Sized", "Iterable", "Container"]), ("Set", ["Collection"]),
   ("MutableSet", ["Set"]), ("Mapping", ["Collection"]), ("MutableMapping", ["Mapping"]),
   ("MappingView", ["Sized"]), ("KeysView", ["MappingView", "Set"]),
   ("ItemsView", ["MappingView", "Set"]), ("ValuesView", ["MappingView", "Collection"]),
   ("Sequence", ["Reversible", "Collection"]), ("MutableSequence", ["Sequence"]),
   ("ByteString", ["Sequence"])]

/-- The class above an exception. -/
def exceptionBase? (name : String) : Option String :=
  (exceptionBranches.find? fun (_, names) => (Text.cut ' ' names).contains name).map Prod.fst

/-- The bases of a class that are more than the root of all classes. -/
def ownBases (c : LibraryClass) : List LibraryClass :=
  match c.space, c.name with
  | "builtins", "bool" => [number]
  | "builtins", name =>
    if name = exceptionGroup then [builtin "BaseExceptionGroup", builtin "Exception"]
    else ((exceptionBase? name).map builtin).toList
  | "collections.abc", name => ((containerBases.lookup name).getD []).map container
  | "collections", "defaultdict" | "collections", "OrderedDict" | "collections", "Counter" =>
    [builtin "dict"]
  | "collections", "ChainMap" | "collections", "UserDict" => [container "MutableMapping"]
  | "collections", "UserList" => [container "MutableSequence"]
  | "collections", "UserString" => [container "Sequence"]
  | "datetime", "datetime" => [⟨"datetime", "date"⟩]
  | "datetime", "timezone" => [⟨"datetime", "tzinfo"⟩]
  | "enum", "ReprEnum" | "enum", "Flag" => [enumeration]
  | "enum", "IntEnum" => [number, ⟨"enum", "ReprEnum"⟩]
  | "enum", "StrEnum" => [text, ⟨"enum", "ReprEnum"⟩]
  | "enum", "IntFlag" => [number, ⟨"enum", "ReprEnum"⟩, flags]
  | "typing", "Protocol" => [generic]
  | _, _ => []

/-- The bases of a class. -/
def bases (c : LibraryClass) : List LibraryClass :=
  if c = object then [] else if c.ownBases.isEmpty then [object] else c.ownBases

/-- The lineage of a class whose bases are known to the given depth. -/
def lineageWithin : Nat → LibraryClass → List LibraryClass
  | 0, c => [c]
  | depth + 1, c =>
    c :: ((Lineage.ofBases (lineageWithin depth) c.bases).toOption.getD [])

/-- The lineage of a class, the class first. -/
def lineage (c : LibraryClass) : List LibraryClass := lineageWithin 12 c

/-- A class comes first in its own lineage. -/
theorem head?_lineage (c : LibraryClass) : c.lineage.head? = some c := rfl

/-! ## Making classes -/

/-- The class of a class. -/
def metaclass (c : LibraryClass) : Metaclass :=
  if c ∈ enumerations then .enumeration
  else if c = typing "Any" then .anything
  else if c = protocol then .protocol
  else if c.lineage.any (·.space = "collections.abc") then .abstract
  else .plain

/-- No class can be derived from these. -/
def isClosed (c : LibraryClass) : Bool :=
  c.space = "builtins" && ["NoneType", "bool", "memoryview", "range", "slice"].contains c.name ||
    c = ⟨"datetime", "timezone"⟩

/-- The built-in exceptions whose instances are stored in a way of their own. -/
def storedExceptions : List String :=
  ["AttributeError", "BaseException", "BaseExceptionGroup", "ImportError", "NameError", "OSError",
    "StopIteration", "SyntaxError", "SystemExit", "UnicodeDecodeError", "UnicodeEncodeError",
    "UnicodeTranslateError"]

/-- The instances of a class are stored in a way of their own. -/
def hasOwnStorage (c : LibraryClass) : Bool :=
  match c.space with
  | "builtins" => plainNames.contains c.name || storedExceptions.contains c.name
  | "collections.abc" => c.name = "MappingView"
  | "collections" => ["deque", "defaultdict", "OrderedDict"].contains c.name
  | "datetime" => c.name != "tzinfo"
  | "decimal" | "uuid" | "dataclasses" => true
  | "enum" => c.name = "IntEnum" || c.name = "IntFlag"
  | _ => false

/-- The class whose way of storing instances a class has. -/
def storage (c : LibraryClass) : LibraryClass := (c.lineage.find? hasOwnStorage).getD object

/-- The instances have no fixed size, so that the first class derived from it stores its
instances in a way of its own. -/
def isVariable (c : LibraryClass) : Bool :=
  c = number || c = tuple || c = builtin "bytes"

/-- The abstract containers that a class may derive from that only says what it offers. -/
def isOffer (c : LibraryClass) : Bool :=
  c = object || c = generic || c = protocol ||
    c.space = "collections.abc" &&
      ["Callable", "Awaitable", "Iterable", "Iterator", "AsyncIterable", "Hashable", "Sized",
        "Container", "Collection", "Reversible"].contains c.name

/-- The instances of a class are raised as exceptions. -/
def isException (c : LibraryClass) : Bool := c.lineage.contains (builtin "BaseException")

/-- Exceptions of a kind tell no report: those of the system, whose words differ from one
system to another, and those of encoding texts. -/
def isUntold (kind : String) : Bool :=
  (builtin kind).lineage.any fun c => c = builtin "OSError" || c = builtin "UnicodeError"

end LibraryClass

end TypeContracts
