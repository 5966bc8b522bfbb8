import TypeContracts.Text.Pieces

/-!
# The classes of the library

Contracts refer to classes of the standard library next to their own: the built-in classes,
the containers, dates and numbers. A class stands in a space of the library under a name,
and has a role that decides how its occurrences are described.
-/

set_option autoImplicit false

namespace TypeContracts

/-- A class of the library. -/
structure LibraryClass where
  space : String
  name : String
deriving DecidableEq, Repr, Inhabited

/-- How the occurrences of a library class are described. -/
inductive LibraryRole where
  | sequence
  | mapping
  | date
  | primitive
  | enumeration
  | other
deriving DecidableEq, Repr

namespace LibraryClass

/-- The full name of a class. -/
def fullName (c : LibraryClass) : String := c.space ++ "." ++ c.name

/-- A built-in class. -/
def builtin (name : String) : LibraryClass := ⟨"builtins", name⟩

/-- An abstract container class. -/
def container (name : String) : LibraryClass := ⟨"collections.abc", name⟩

/-- A class of the space of typing. -/
def typing (name : String) : LibraryClass := ⟨"typing", name⟩

/-! ## Single classes -/

/-- The root of all classes. -/
def object : LibraryClass := builtin "object"

/-- The class of tuples, whose occurrences can list several element types. -/
def tuple : LibraryClass := builtin "tuple"

/-- The class of whole numbers. -/
def number : LibraryClass := builtin "int"

/-- The class of texts. -/
def text : LibraryClass := builtin "str"

/-- The class of the missing value. -/
def missing : LibraryClass := builtin "NoneType"

/-- The abstract class of callables. -/
def callable : LibraryClass := container "Callable"

/-- The root of the classes with type parameters. -/
def generic : LibraryClass := typing "Generic"

/-- The root of the classes that only say what they offer. -/
def protocol : LibraryClass := typing "Protocol"

/-- The root of enumerations. -/
def enumeration : LibraryClass := ⟨"enum", "Enum"⟩

/-- The root of enumerations of flags. -/
def flags : LibraryClass := ⟨"enum", "Flag"⟩

/-- The root of enumerations of texts that take nothing but texts. -/
def textEnumeration : LibraryClass := ⟨"enum", "StrEnum"⟩

/-- The marker of fields that only initialise instances. -/
def initVariable : LibraryClass := ⟨"dataclasses", "InitVar"⟩

/-! ## Roles -/

/-- The classes whose occurrences are sequences of one element type. -/
def sequences : List LibraryClass :=
  ["list", "tuple", "set", "frozenset"].map builtin ++ [⟨"collections", "deque"⟩] ++
    ["Sequence", "MutableSequence", "Set", "MutableSet", "Collection", "Iterable"].map container

/-- The classes whose occurrences map keys to values. -/
def mappings : List LibraryClass :=
  [builtin "dict", ⟨"collections", "OrderedDict"⟩, ⟨"collections", "defaultdict"⟩,
    container "Mapping", container "MutableMapping"]

/-- The classes of points in time. -/
def dates : List LibraryClass :=
  [⟨"datetime", "datetime"⟩, ⟨"datetime", "date"⟩, ⟨"datetime", "time"⟩]

/-- The classes of plain values. -/
def primitives : List LibraryClass :=
  ["int", "float", "complex", "str", "bytes", "bool", "object"].map builtin ++
    [⟨"decimal", "Decimal"⟩, ⟨"uuid", "UUID"⟩]

/-- The names of the classes of enumerations. -/
def enumerationNames : List String := ["Enum", "IntEnum", "StrEnum", "Flag", "IntFlag", "ReprEnum"]

/-- The classes of enumerations. -/
def enumerations : List LibraryClass := enumerationNames.map (⟨"enum", ·⟩)

/-- The role of a library class. -/
def role (c : LibraryClass) : LibraryRole :=
  if c ∈ sequences then .sequence
  else if c ∈ mappings then .mapping
  else if c ∈ dates then .date
  else if c ∈ primitives then .primitive
  else if c ∈ enumerations then .enumeration
  else .other

/-! ## Spellings -/

/-- The classes that take type arguments in brackets themselves. -/
def isSubscriptable (c : LibraryClass) : Bool :=
  match c.space with
  | "builtins" =>
    ["BaseExceptionGroup", "ExceptionGroup", "dict", "enumerate", "frozenset", "list", "set",
      "tuple", "type"].contains c.name
  | "collections" => true
  | "collections.abc" => c.name != "Hashable" && c.name != "Sized"
  | _ => false

/-- The spelling of a class inside brackets. -/
def spelling (c : LibraryClass) : String :=
  if c.space = "builtins" then c.name else c.fullName

/-- The spelling of a class as a value. -/
def display (c : LibraryClass) : String :=
  if c = flags || c = ⟨"enum", "IntFlag"⟩ then "<flag '" ++ c.name ++ "'>"
  else if c ∈ enumerations then "<enum '" ++ c.name ++ "'>"
  else "<class '" ++ c.spelling ++ "'>"

/-- The name of a class in messages about its use. -/
def label (c : LibraryClass) : String :=
  if c.space = "datetime" || c.space = "decimal" ||
      ["deque", "defaultdict", "OrderedDict"].contains c.name && c.space = "collections" then
    c.fullName
  else c.name

/-! ## Exceptions -/

/-- The exceptions that have one class above them, by that class. -/
def exceptionBranches : List (String × String) :=
  [("object", "BaseException"),
   ("BaseException", "BaseExceptionGroup Exception GeneratorExit KeyboardInterrupt SystemExit"),
   ("Exception",
    "ArithmeticError AssertionError AttributeError BufferError EOFError ImportError " ++
    "LookupError MemoryError NameError OSError ReferenceError RuntimeError " ++
    "StopAsyncIteration StopIteration SyntaxError SystemError TypeError ValueError Warning"),
   ("OSError",
    "BlockingIOError ChildProcessError ConnectionError FileExistsError FileNotFoundError " ++
    "InterruptedError IsADirectoryError NotADirectoryError PermissionError " ++
    "ProcessLookupError TimeoutError"),
   ("ConnectionError",
    "BrokenPipeError ConnectionAbortedError ConnectionRefusedError ConnectionResetError"),
   ("Warning",
    "BytesWarning DeprecationWarning EncodingWarning FutureWarning ImportWarning " ++
    "PendingDeprecationWarning ResourceWarning RuntimeWarning SyntaxWarning " ++
    "UnicodeWarning UserWarning"),
   ("ArithmeticError", "FloatingPointError OverflowError ZeroDivisionError"),
   ("SyntaxError", "IndentationError"),
   ("IndentationError", "TabError"),
   ("LookupError", "IndexError KeyError"),
   ("ImportError", "ModuleNotFoundError"),
   ("RuntimeError", "NotImplementedError RecursionError"),
   ("NameError", "UnboundLocalError"),
   ("ValueError", "UnicodeError"),
   ("UnicodeError", "UnicodeDecodeError UnicodeEncodeError UnicodeTranslateError")]

/-- The group of exceptions, which has two classes above it. -/
def exceptionGroup : String := "ExceptionGroup"

/-- The names of all exceptions. -/
def exceptionNames : List String :=
  exceptionGroup :: exceptionBranches.flatMap fun (_, names) => Text.cut ' ' names

/-! ## Names -/

/-- The names of the built-in classes that are no exceptions. -/
def plainNames : List String :=
  Text.cut ' ' <|
    "bool bytearray bytes classmethod complex dict enumerate filter float frozenset int " ++
    "list map memoryview object property range reversed set slice staticmethod str super " ++
    "tuple type zip"

/-- The names of the abstract container classes. -/
def containerNames : List String :=
  ["Awaitable", "Coroutine", "AsyncIterable", "AsyncIterator", "AsyncGenerator", "Hashable",
    "Iterable", "Iterator", "Generator", "Reversible", "Sized", "Container", "Callable",
    "Collection", "Set", "MutableSet", "Mapping", "MutableMapping", "MappingView", "KeysView",
    "ItemsView", "ValuesView", "Sequence", "MutableSequence", "ByteString"]

/-- The names of the classes in each space of the library. -/
def namesIn (space : String) : List String :=
  match space with
  | "builtins" => plainNames ++ exceptionNames
  | "collections.abc" => containerNames
  | "collections" =>
    ["deque", "defaultdict", "OrderedDict", "Counter", "ChainMap", "UserDict", "UserList",
      "UserString"]
  | "datetime" => ["datetime", "date", "time", "timedelta", "tzinfo", "timezone"]
  | "decimal" => ["Decimal"]
  | "uuid" => ["UUID"]
  | "enum" => enumerationNames
  | _ => []

/-- The class with a name in a space of the library. -/
def find? (space name : String) : Option LibraryClass :=
  if space = "builtins" && (name = "IOError" || name = "EnvironmentError") then
    some (builtin "OSError")
  else if name ∈ namesIn space then some ⟨space, name⟩
  else none

end LibraryClass

end TypeContracts
