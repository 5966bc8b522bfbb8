import TypeContracts.Source.World

/-!
# Looking up names

What a name stands for in the surroundings of an annotation: in a class body, in a module,
in the text of a deferred annotation, and among the names that are built in.
-/

set_option autoImplicit false

namespace TypeContracts

/-- What a name stands for, in the surroundings of an annotation. -/
abbrev Lookup := String → Option Form

namespace Lookup

/-! ## Library names -/

/-- A function of the library. -/
def function (sort : String) (name : String) : Form :=
  .atom (.object sort ("<" ++ (if sort = "function" then "function " else "built-in function ") ++
    name ++ ">"))

/-- The names of the built-in functions. -/
def functionNames : List String :=
  Text.cut ' ' <|
    "__build_class__ __import__ abs aiter all anext any ascii bin breakpoint callable chr " ++
    "compile delattr dir divmod eval exec format getattr globals hasattr hash hex id input " ++
    "isinstance issubclass iter len locals max min next oct open ord pow print repr round setattr sorted sum vars"

/-- The names of typing for what is no class and takes no part in contracts. -/
def typingForms : List String :=
  ["Concatenate", "LiteralString", "Never", "NoReturn", "NotRequired", "Required", "Self",
    "TypeAlias", "TypeGuard", "Unpack"]

/-- The functions of the library that contract modules use to define classes. -/
def libraryFunctions : List (String × String) :=
  [("dataclasses", "dataclass"), ("dataclasses", "field")]

/-- The names of typing. -/
def typingName : Lookup := fun name =>
  if name = "Any" then some (.atom .any)
  else if typingForms.contains name then some (.atom (.object "_SpecialForm" ("typing." ++ name)))
  else if name = "TypeVar" then some (.atom (.library (.typing name)))
  else
    ((Alias.find? name).map fun a => Form.atom (.alias a)) <|>
      ((Special.find? name).map fun s => Form.atom (.special s))

/-- The names of the spaces of the library. -/
def spaceNames : List String :=
  ["collections", "collections.abc", "dataclasses", "datetime", "decimal", "enum", "typing",
    "uuid"]

/-- What a name of a space of the library stands for. -/
def inLibrary (space : String) : Lookup := fun name =>
  if space = "typing" then typingName name
  else if space = "collections" && name = "abc" then some (.atom (.space "collections.abc"))
  else if space = "dataclasses" && name = "InitVar" then some (.atom (.special .initVariable))
  else if space = "enum" && name = "auto" then some (.atom (.library ⟨space, name⟩))
  else if libraryFunctions.contains (space, name) then some (function "function" name)
  else (LibraryClass.find? space name).map fun c => .atom (.library c)

/-- The names that are built in. -/
def builtin : Lookup := fun name =>
  if name = "Ellipsis" then some (.atom .ellipsis)
  else if name = "NotImplemented" then some (.atom (.object "NotImplementedType" name))
  else if name = "__debug__" then some (Form.ofFlag true)
  else if functionNames.contains name then some (function "builtin_function_or_method" name)
  else inLibrary "builtins" name

/-! ## Surroundings -/

/-- The names of a scope. -/
def ofScope (scope : Scope) : Lookup := scope.find?

/-- One lookup after another. -/
def orElse (first second : Lookup) : Lookup := fun name => first name <|> second name

/-- The names inside a class body: its own ones hide those of the module. -/
def inBody (body module : Scope) : Lookup :=
  (ofScope body).orElse ((ofScope module).orElse builtin)

/-- The names for the deferred annotations of a class: those of the module hide the ones
of the class. -/
def deferred (body : Scope) (module : Lookup) : Lookup :=
  module.orElse ((ofScope body).orElse builtin)

/-- The names in a module outside of classes. -/
def inModule (module : Scope) : Lookup := (ofScope module).orElse builtin

/-- What a name stands for. The words for no value and for the truth values are reserved. -/
def form (names : Lookup) (name : String) : Formed :=
  match name with
  | "None" => .ok (.atom .none)
  | "True" => .ok (Form.ofFlag true)
  | "False" => .ok (Form.ofFlag false)
  | name =>
    match names name with
    | some form => .ok form
    | none => .error (.unknownName name)

end Lookup

/-- The names of a module that was loaded, or of a space of the library. -/
def World.moduleNames? (world : World) (space : String) : Option Lookup :=
  match world.module? space with
  | some loaded => some (Lookup.ofScope loaded.scope)
  | none =>
    if space = "builtins" then some Lookup.builtin
    else if Lookup.spaceNames.contains space then some (Lookup.inLibrary space)
    else none

end TypeContracts
