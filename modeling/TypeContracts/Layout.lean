import TypeContracts.Declaration.Basic
import TypeContracts.Options

/-!
# Layouts

Which unit a declaration lands in. One layout gives every declaration a file of its
own in directories that follow its namespace. The other gives every namespace a file,
and a default file to what lies outside any namespace. A root namespace is left out of
the paths.
-/

set_option autoImplicit false

namespace TypeContracts

/-- A layout names the unit of a declaration. -/
abbrev Layout := Declaration → String

namespace Layout

/-- The namespace inside the root namespace; others stay as they are. -/
def insideRoot (root : Option String) (space : String) : String :=
  match root with
  | none => space
  | some root =>
    if root.isEmpty then space
    else if space = root then ""
    else (Text.dropStart? (root ++ ".") space).getD space

/-- The directory of a namespace. -/
def directory (root : Option String) (space : String) : String :=
  (insideRoot root space).map fun c => if c = '.' then '/' else c

/-- One file per declaration. -/
def perType (root : Option String) : Layout := fun declaration =>
  let place := directory root declaration.identity.space
  if place.isEmpty then declaration.name else place ++ "/" ++ declaration.name

/-- One file per namespace. -/
def perNamespace (root : Option String) (fallback : String) : Layout := fun declaration =>
  let place := directory root declaration.identity.space
  if place.isEmpty then fallback else place

/-- The layout of a kind. -/
def ofKind (kind : LayoutKind) (root : Option String) : Layout :=
  match kind with
  | .perType => perType root
  | .perNamespace => perNamespace root "index"

end Layout

end TypeContracts
