import TypeContracts.Declaration.Basic

/-!
# References of a tree

All type references inside a declaration, a member or a reference, in reading order. A
reference comes before the references inside it, and a stray node that is no tree at
all counts as a reference of its own.
-/

set_option autoImplicit false

namespace TypeContracts

mutual

/-- A reference and the references inside it. -/
def TypeRef.references : TypeRef → List TypeRef
  | .array element => .array element :: element.references
  | .union options => .union options :: TypeRef.referencesOfAll options
  | .intersection parts => .intersection parts :: TypeRef.referencesOfAll parts
  | .generic base arguments =>
    .generic base arguments :: (base.references ++ TypeRef.referencesOfAll arguments)
  | .object members => .object members :: Member.referencesOfAll members
  | .stray value => value.references
  | .builtin name => [.builtin name]
  | .declared identity => [.declared identity]
  | .imported name path => [.imported name path]
  | .textLiteral value => [.textLiteral value]
  | .numberLiteral value => [.numberLiteral value]
  | .parameter name => [.parameter name]

/-- The references inside several references, one after another. -/
def TypeRef.referencesOfAll : List TypeRef → List TypeRef
  | [] => []
  | reference :: rest => reference.references ++ TypeRef.referencesOfAll rest

/-- The references inside a member. -/
def Member.references : Member → List TypeRef
  | .property _ type _ _ => type.references
  | .index _ key value => key.references ++ value.references
  | .getter _ argument result _ => argument.references ++ result.references
  | .stray value => value.references

/-- The references inside several members, one after another. -/
def Member.referencesOfAll : List Member → List TypeRef
  | [] => []
  | member :: rest => member.references ++ Member.referencesOfAll rest

/-- The references inside a declaration. -/
def Declaration.references : Declaration → List TypeRef
  | .interface _ _ members => Member.referencesOfAll members
  | .alias _ _ aliased _ => aliased.references
  | .enumeration _ _ _ => []

/-- The references that a misplaced node stands for. -/
def Stray.references : Stray → List TypeRef
  | .text value => [.stray (.text value)]
  | .number value => [.stray (.number value)]
  | .absent => [.stray .absent]
  | .statement value => [.stray (.statement value)]
  | .reference value => value.references
  | .member value => value.references
  | .declaration value => value.references

end

end TypeContracts
