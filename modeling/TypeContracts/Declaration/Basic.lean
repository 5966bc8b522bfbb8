import TypeContracts.Identity

/-!
# The declaration tree

What a generated unit says, before it is text: references to types, members of object
types, and top-level declarations. Trees may come from an extension, so that a node can
stand where another sort of node belongs. Such a node is a `Stray`; a tree without
strays is the ordinary case.
-/

set_option autoImplicit false

namespace TypeContracts

/-- The value of an enumeration entry in a declaration. -/
inductive EnumLiteral where
  | text (value : String)
  | number (value : Int)
deriving DecidableEq, Repr, Inhabited

/-- An entry of an enumeration declaration. -/
structure EnumEntry where
  name : String
  value : EnumLiteral
deriving DecidableEq, Repr, Inhabited

/-- An import line of a unit: of a generated declaration, or of a hand-written type. -/
inductive Import where
  | fromUnit (name target current : String)
  | fromPath (name path current : String)
deriving DecidableEq, Repr, Inhabited

namespace Import

/-- The name that is imported. -/
def name : Import → String
  | .fromUnit name _ _ => name
  | .fromPath name _ _ => name

/-- The path of the unit that is imported from. -/
def target : Import → String
  | .fromUnit _ target _ => target
  | .fromPath _ path _ => path

/-- The path of the unit that holds the import. -/
def current : Import → String
  | .fromUnit _ _ current => current
  | .fromPath _ _ current => current

end Import

mutual

/-- A reference to a type, as it appears in a member or an alias. -/
inductive TypeRef where
  | builtin (name : String)
  | declared (identity : Identity)
  | imported (name path : String)
  | array (element : TypeRef)
  | union (options : List TypeRef)
  | intersection (parts : List TypeRef)
  | textLiteral (value : String)
  | numberLiteral (value : Int)
  | generic (base : TypeRef) (arguments : List TypeRef)
  | parameter (name : String)
  | object (members : List Member)
  | stray (value : Stray)

/-- A member of an object type. -/
inductive Member where
  | property (name : String) (type : TypeRef) (isOptional isReadonly : Bool)
  | index (keyName : String) (key value : TypeRef)
  | getter (argumentName : String) (argument result : TypeRef) (isOptional : Bool)
  | stray (value : Stray)

/-- A top-level declaration. -/
inductive Declaration where
  | interface (identity : Identity) (name : String) (members : List Member)
  | alias (identity : Identity) (name : String) (aliased : TypeRef) (parameters : List String)
  | enumeration (identity : Identity) (name : String) (entries : List EnumEntry)

/-- What stands in a place where another sort of node belongs. -/
inductive Stray where
  | text (value : String)
  | number (value : Int)
  | absent
  | reference (value : TypeRef)
  | member (value : Member)
  | declaration (value : Declaration)
  | statement (value : Import)

end

instance : Inhabited TypeRef := ⟨.builtin ""⟩
instance : Inhabited Member := ⟨.stray .absent⟩
instance : Inhabited Stray := ⟨.absent⟩
instance : Inhabited Declaration := ⟨.enumeration default "" []⟩

namespace Declaration

/-- The identity that a declaration declares. -/
def identity : Declaration → Identity
  | .interface identity _ _ => identity
  | .alias identity _ _ _ => identity
  | .enumeration identity _ _ => identity

/-- The declared name. -/
def name : Declaration → String
  | .interface _ name _ => name
  | .alias _ name _ _ => name
  | .enumeration _ name _ => name

/-- The same declaration under another name. -/
def rename (name : String) : Declaration → Declaration
  | .interface identity _ members => .interface identity name members
  | .alias identity _ aliased parameters => .alias identity name aliased parameters
  | .enumeration identity _ entries => .enumeration identity name entries

@[simp] theorem identity_rename (name : String) (d : Declaration) :
    (d.rename name).identity = d.identity := by
  cases d <;> rfl

@[simp] theorem name_rename (name : String) (d : Declaration) : (d.rename name).name = name := by
  cases d <;> rfl

end Declaration

namespace TypeRef

/-- The built-in type of texts. -/
def string : TypeRef := .builtin "string"

/-- The built-in type of numbers. -/
def number : TypeRef := .builtin "number"

/-- The built-in type of truth values. -/
def boolean : TypeRef := .builtin "boolean"

/-- The built-in type of the null value. -/
def null : TypeRef := .builtin "null"

/-- The reference is the built-in null type. -/
def isNull : TypeRef → Bool
  | .builtin name => name == "null"
  | _ => false

/-- The reference is a built-in type that can key an index signature. -/
def isIndexKey : TypeRef → Bool
  | .builtin name => name == "string" || name == "number"
  | _ => false

end TypeRef

end TypeContracts
