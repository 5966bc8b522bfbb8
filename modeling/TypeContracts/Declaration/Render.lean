import TypeContracts.Declaration.Basic
import TypeContracts.Declaration.Literal
import TypeContracts.UnitPath

/-!
# Rendering

The text of references, members, declarations and imports. A declared type is written
with the name that the naming gives to its identity. Parentheses stand only where the
reading would change without them: around a union or an intersection whose elements
form an array, and around a union that is part of an intersection.

Rendering fails in two ways: on a node of the wrong sort, and on an identity that the
naming does not know.
-/

set_option autoImplicit false

namespace TypeContracts

/-- The names under which identities are declared. -/
abbrev Naming := Identity → Option String

/-- The sorts of places that a node can stand in. -/
inductive Place where
  | reference
  | member
  | declaration
deriving DecidableEq, Repr

/-- Why a tree has no text. -/
inductive RenderFault where
  | unsupported (place : Place) (kind : String)
  | unnamed (identity : Identity)
deriving DecidableEq

/-- The place as messages name it. -/
def Place.text : Place → String
  | .reference => "type reference"
  | .member => "member"
  | .declaration => "declaration"

/-- The report of a tree without a text. -/
def RenderFault.message : RenderFault → String
  | .unsupported place kind => "Unsupported " ++ place.text ++ ": " ++ kind
  | .unnamed identity => "No declaration registered for '" ++ identity.text ++ "'"

/-! ## Kinds of nodes -/

/-- The kind of an import as messages name it. -/
def Import.kind : Import → String
  | .fromUnit .. => "ImportFromUnit"
  | .fromPath .. => "ImportFromPath"

/-- The kind of a declaration as messages name it. -/
def Declaration.kind : Declaration → String
  | .interface .. => "InterfaceDeclaration"
  | .alias .. => "TypeAliasDeclaration"
  | .enumeration .. => "EnumDeclaration"

mutual

/-- The kind of a reference as messages name it. -/
def TypeRef.kind : TypeRef → String
  | .builtin _ => "BuiltinType"
  | .declared _ => "DeclarationRef"
  | .imported _ _ => "ImportedTypeRef"
  | .array _ => "ArrayType"
  | .union _ => "UnionType"
  | .intersection _ => "IntersectionType"
  | .textLiteral _ => "LiteralType"
  | .numberLiteral _ => "LiteralType"
  | .generic _ _ => "GenericType"
  | .parameter _ => "TypeParameter"
  | .object _ => "ObjectType"
  | .stray value => value.kind

/-- The kind of a member as messages name it. -/
def Member.kind : Member → String
  | .property .. => "PropertyMember"
  | .index .. => "IndexSignatureDeclaration"
  | .getter .. => "GetterDeclaration"
  | .stray value => value.kind

/-- The kind of a misplaced node as messages name it. -/
def Stray.kind : Stray → String
  | .text _ => "str"
  | .number _ => "int"
  | .absent => "NoneType"
  | .reference value => value.kind
  | .member value => value.kind
  | .declaration value => value.kind
  | .statement value => value.kind

end

/-! ## References and members -/

/-- A text in parentheses. -/
def parenthesised (text : String) : String := "(" ++ text ++ ")"

/-- The element of an array needs parentheses. -/
def TypeRef.bindsLooserThanArray : TypeRef → Bool
  | .union _ => true
  | .intersection _ => true
  | _ => false

/-- The part of an intersection needs parentheses. -/
def TypeRef.bindsLooserThanIntersection : TypeRef → Bool
  | .union _ => true
  | _ => false

/-- A keyed member: the key in brackets, then the value. -/
def keyed (key value : String) : String := "[" ++ key ++ "]" ++ value ++ ";"

mutual

/-- The text of a reference. -/
def TypeRef.render (names : Naming) : TypeRef → Except RenderFault String
  | .builtin name => .ok name
  | .declared identity =>
    match names identity with
    | some name => .ok name
    | none => .error (.unnamed identity)
  | .imported name _ => .ok name
  | .array element => do
    let text ← element.render names
    return (if element.bindsLooserThanArray then parenthesised text else text) ++ "[]"
  | .union options => do return Text.join " | " (← TypeRef.renderAll names options)
  | .intersection parts => do return Text.join " & " (← TypeRef.renderParts names parts)
  | .textLiteral value => .ok (Literal.quote value)
  | .numberLiteral value => .ok (toString value)
  | .generic base arguments => do
    let inner ← TypeRef.renderAll names arguments
    return (← base.render names) ++ "<" ++ Text.join ", " inner ++ ">"
  | .parameter name => .ok name
  | .object [] => .ok "\x7b\x7d"
  | .object members => do
    return "\x7b " ++ Text.join " " (← Member.renderAll names members) ++ " \x7d"
  | .stray value => .error (.unsupported .reference value.kind)

/-- The texts of several references. -/
def TypeRef.renderAll (names : Naming) : List TypeRef → Except RenderFault (List String)
  | [] => .ok []
  | reference :: rest => do
    let text ← reference.render names
    return text :: (← TypeRef.renderAll names rest)

/-- The texts of the parts of an intersection. -/
def TypeRef.renderParts (names : Naming) : List TypeRef → Except RenderFault (List String)
  | [] => .ok []
  | part :: rest => do
    let text ← part.render names
    let shown := if part.bindsLooserThanIntersection then parenthesised text else text
    return shown :: (← TypeRef.renderParts names rest)

/-- The text of a member, with its semicolon. -/
def Member.render (names : Naming) : Member → Except RenderFault String
  | .property name type isOptional isReadonly => do
    let value ← type.render names
    return (if isReadonly then "readonly " else "") ++ Literal.propertyName name ++
      (if isOptional then "?" else "") ++ ": " ++ value ++ ";"
  | .index keyName key value => do
    let keyText ← key.render names
    return keyed (keyName ++ ": " ++ keyText) (": " ++ (← value.render names))
  | .getter argumentName argument result isOptional => do
    let argumentText ← argument.render names
    let resultText ← result.render names
    if argumentText = "string" ∨ argumentText = "number" then
      return keyed (argumentName ++ ": " ++ argumentText) (": " ++ resultText)
    else
      return keyed (argumentName ++ " in " ++ argumentText)
        ((if isOptional then "?" else "") ++ ": " ++ resultText)
  | .stray value => .error (.unsupported .member value.kind)

/-- The texts of several members. -/
def Member.renderAll (names : Naming) : List Member → Except RenderFault (List String)
  | [] => .ok []
  | member :: rest => do
    let text ← member.render names
    return text :: (← Member.renderAll names rest)

end

/-! ## Declarations and imports -/

/-- The indentation of members and entries. -/
def indent : String := "    "

/-- The text of the value of an enumeration entry. -/
def EnumLiteral.render : EnumLiteral → String
  | .text value => Literal.quote value
  | .number value => toString value

/-- The line of an enumeration entry. -/
def EnumEntry.render (entry : EnumEntry) : String :=
  indent ++ Literal.propertyName entry.name ++ " = " ++ entry.value.render ++ ","

/-- The parameter list of an alias. -/
def renderParameters (parameters : List String) : String :=
  if parameters.isEmpty then "" else "<" ++ Text.join ", " parameters ++ ">"

/-- The text of an exported declaration. -/
def Declaration.render (names : Naming) : Declaration → Except RenderFault String
  | .interface _ name [] => .ok ("export type " ++ name ++ " = \x7b\x7d;")
  | .interface _ name members => do
    let lines ← Member.renderAll names members
    return Text.join "\n"
      (("export type " ++ name ++ " = \x7b") :: lines.map (indent ++ ·) ++ ["\x7d;"])
  | .alias _ name aliased parameters => do
    let text ← aliased.render names
    return "export type " ++ name ++ renderParameters parameters ++ " = " ++ text ++ ";"
  | .enumeration _ name entries =>
    .ok (Text.join "\n"
      (("export enum " ++ name ++ " \x7b") :: entries.map EnumEntry.render ++ ["\x7d"]))

/-- The import line of a unit. -/
def Import.render (statement : Import) : Except UnitPath.ImportFault String := do
  let specifier ← UnitPath.resolveImport statement.current statement.target
  return "import type \x7b " ++ statement.name ++ " \x7d from '" ++ specifier ++ "';"

end TypeContracts
