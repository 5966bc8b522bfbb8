import TypeContracts.Identity
import TypeContracts.Source.Expression
import TypeContracts.Source.Library.Forms
import TypeContracts.Source.Library.Lineage
import TypeContracts.Source.Value

/-!
# Type forms

What an annotation stands for once its names are looked up: a class, a type variable, a
generic form applied to arguments, a union of options, or a value that is no type. Texts in
an annotation stay in a form, as forward references where a type is expected, until they
are read.

A form has three texts. `Form.text` is its spelling inside the brackets of another form,
`Form.title` the name that a report gives it, and `Form.display` its spelling as a value.
Two forms can be the same without being written alike; `Form.same` tells.
-/

set_option autoImplicit false

namespace TypeContracts

/-! ## Variables and classes -/

/-- A type variable. Variables of one name that were declared apart have different
serial numbers. -/
structure TypeVariable where
  name : String
  serial : Nat
deriving DecidableEq, Repr, Inhabited

/-- A class of the contracts, by its number among all classes that were defined. A class
stands in the space of its module under a path of names. -/
structure ClassRef where
  number : Nat
  space : String
  path : String
  name : String
  metaclass : Metaclass
  isFlags : Bool
  parameters : List TypeVariable
deriving DecidableEq, Repr, Inhabited

namespace ClassRef

/-- The full name of a class. -/
def fullName (c : ClassRef) : String := c.space ++ "." ++ c.path

/-- The class is an enumeration. -/
def isEnumeration (c : ClassRef) : Bool := c.metaclass = .enumeration

/-- The spelling of a class inside brackets. -/
def spelling (c : ClassRef) : String := if c.space = "builtins" then c.path else c.fullName

/-- The spelling of a class as a value. -/
def display (c : ClassRef) : String :=
  if c.isFlags then "<flag '" ++ c.name ++ "'>"
  else if c.isEnumeration then "<enum '" ++ c.name ++ "'>"
  else "<class '" ++ c.spelling ++ "'>"

end ClassRef

/-- A class of either sort: one of the contracts, by its number, or one of the library. -/
inductive Ancestor where
  | contract (number : Nat)
  | library (c : LibraryClass)
deriving DecidableEq, Repr, Inhabited

/-! ## Values -/

/-- The value of a literal. -/
def Scalar.value : Scalar → EnumValue
  | .text value => .text value
  | .integer value => .integer value
  | .flag value => .flag value
  | .real value => .real value

/-- A member of an enumeration. `isValue` tells that it stands for its value wherever a
value of that sort can stand. -/
structure OwnedMember where
  owner : ClassRef
  name : String
  value : EnumValue
  isValue : Bool
deriving Repr, Inhabited

namespace OwnedMember

/-- The spelling of a member. -/
def spelling (m : OwnedMember) : String :=
  "<" ++ m.owner.name ++ "." ++ m.name ++ ": " ++ m.value.spelling ++ ">"

/-- Members are the same as themselves and, where they stand for their values, as members
of the same name with the same value. -/
def same (m n : OwnedMember) : Bool :=
  m.name = n.name &&
    (m.owner.number = n.owner.number || (m.isValue && n.isValue && m.value.same n.value))

/-- The text that a member stands for. -/
def text? (m : OwnedMember) : Option String :=
  match m.isValue, m.value with
  | true, .text value => some value
  | _, _ => none

end OwnedMember

/-! ## Forms -/

/-- A form without parts. A forward reference has its text and how that text is spelled, and
an object is known by the name of its sort and its spelling. -/
inductive Atom where
  | none
  | noneType
  | any
  | ellipsis
  | variable (v : TypeVariable)
  | contract (c : ClassRef)
  | library (c : LibraryClass)
  | alias (a : Alias)
  | special (s : Special)
  | scalar (value : Scalar)
  | forward (text spelling : String)
  | space (name : String)
  | member (m : OwnedMember)
  | object (sort spelling : String)
deriving Repr, Inhabited

/-- What is applied to arguments in a generic form. -/
inductive Head where
  | contract (c : ClassRef)
  | library (c : LibraryClass)
  | alias (a : Alias)
  | special (s : Special)
deriving DecidableEq, Repr, Inhabited

/-- What an annotation stands for. The keys and the values of a map alternate. -/
inductive Form where
  | atom (a : Atom)
  | generic (head : Head) (arguments : List Form)
  | union (barred : Bool) (options : List Form)
  | annotated (type : Form) (notes : List Form)
  | initVariable (type : Form)
  | group (grouping : Grouping) (items : List Form)
deriving Repr, Inhabited

/-! ## Sorts -/

/-- The name of the sort of value that an atom is. -/
def Atom.sort : Atom → String
  | .none => "NoneType"
  | .ellipsis => "ellipsis"
  | .scalar value => value.value.sort
  | .forward .. => "ForwardRef"
  | .variable _ => "TypeVar"
  | .alias a => if a.arity = .call then "_CallableType" else
      if a.arity = .any then "_TupleType" else "_SpecialGenericAlias"
  | .space _ => "module"
  | .any => Metaclass.anything.name
  | .contract c => c.metaclass.name
  | .library c => c.metaclass.name
  | .special s => (s.class?.map fun c => c.metaclass.name).getD "_SpecialForm"
  | .noneType => "type"
  | .member m => m.owner.name
  | .object sort _ => sort

/-- The name of the sort of value that a form is. -/
def Form.sort : Form → String
  | .atom a => a.sort
  | .generic (.library c) _ =>
    if c = .callable then "_CallableGenericAlias" else "types.GenericAlias"
  | .generic (.special .literal) _ => "_LiteralGenericAlias"
  | .generic (.alias a) _ => if a.arity = .call then "_CallableGenericAlias" else "_GenericAlias"
  | .generic .. => "_GenericAlias"
  | .union barred _ => if barred then "types.UnionType" else "_UnionGenericAlias"
  | .annotated .. => "_AnnotatedAlias"
  | .initVariable _ => "InitVar"
  | .group grouping _ => grouping.sort

/-! ## Sameness -/

/-- Atoms are the same by what they stand for, and numbers compare by value. -/
def Atom.same : Atom → Atom → Bool
  | .none, .none | .noneType, .noneType | .any, .any | .ellipsis, .ellipsis => true
  | .variable v, .variable w => v = w
  | .contract c, .contract d => c.number = d.number
  | .library c, .library d => c = d
  | .alias a, .alias b => a = b
  | .special s, .special t => s = t
  | .scalar a, .scalar b => a.value.same b.value
  | .forward a _, .forward b _ => a = b
  | .space a, .space b => a = b
  | .member m, .member n => m.same n
  | .object s a, .object t b => s = t && a = b
  | _, _ => false

namespace Form

mutual

/-- Forms are the same part by part. The options of unions and the values of literal forms
count without their order, and the values of literal forms by their sorts too. A marker of
fields is only the same as itself, which no two forms show. -/
def same : Form → Form → Bool
  | .atom a, .atom b => a.same b
  | .generic (.special .literal) values, .generic (.special .literal) others =>
    allIn true values others && others.all fun other => hasOne true values other
  | .generic a as, .generic b bs => a = b && sameAll as bs
  | .union _ as, .union _ bs => allIn false as bs && bs.all fun other => hasOne false as other
  | .annotated f notes, .annotated g others => same f g && sameAll notes others
  | .group .set items, .group .set others =>
    allIn false items others && others.all fun other => hasOne false items other
  | .group a items, .group b others => a = b && sameAll items others
  | _, _ => false

/-- Two lists have the same forms in the same order. -/
def sameAll : List Form → List Form → Bool
  | [], [] => true
  | f :: fs, g :: gs => same f g && sameAll fs gs
  | _, _ => false

/-- Every form of a list is one of others, and of the same sort where sorts count. -/
def allIn (sorted : Bool) : List Form → List Form → Bool
  | [], _ => true
  | f :: fs, others =>
    (others.any fun other => same f other && (!sorted || f.sort = other.sort)) &&
      allIn sorted fs others

/-- A form is one of a list, and of the same sort where sorts count. -/
def hasOne (sorted : Bool) : List Form → Form → Bool
  | [], _ => false
  | f :: fs, other =>
    same f other && (!sorted || f.sort = other.sort) || hasOne sorted fs other

end

/-- The same value of the same sort. -/
def sameSorted (f g : Form) : Bool := same f g && f.sort = g.sort

/-- The form says that a value is missing. -/
def isMissing : Form → Bool
  | .atom .none => true
  | .atom .noneType => true
  | _ => false

/-- The form stands for anything between or behind other types. -/
def isEllipsis : Form → Bool
  | .atom .ellipsis => true
  | _ => false

/-- The arguments that an index in brackets gives: the parts of a tuple, or the index. -/
def arguments : Form → List Form
  | .group .tuple items => items
  | form => [form]

mutual

/-- The name of the sort of the first part that can change, if there is one. What can
change is never looked up among other values. -/
def changing? : Form → Option String
  | .atom _ => none
  | .generic _ arguments => changingIn? arguments
  | .union _ options => changingIn? options
  | .annotated type notes => type.changing?.orElse fun _ => changingIn? notes
  | .initVariable _ => none
  | .group .tuple items => changingIn? items
  | .group grouping _ => some grouping.sort

/-- The name of the sort of the first part of several forms that can change. -/
def changingIn? : List Form → Option String
  | [] => none
  | form :: rest => form.changing?.orElse fun _ => changingIn? rest

end

end Form

/-! ## Texts -/

/-- The spelling of an atom inside brackets. -/
def Atom.text : Atom → String
  | .none => "None"
  | .noneType => "NoneType"
  | .any => "typing.Any"
  | .ellipsis => "..."
  | .variable v => "~" ++ v.name
  | .contract c => c.spelling
  | .library c => c.spelling
  | .alias a => a.text
  | .special s => s.fullName
  | .scalar value => value.spelling
  | .forward _ spelling => "ForwardRef(" ++ spelling ++ ")"
  | .space name => "<module '" ++ name ++ "'>"
  | .member m => m.spelling
  | .object _ spelling => spelling

/-- The spelling of an atom as a value. -/
def Atom.display : Atom → String
  | .noneType => "<class 'NoneType'>"
  | .ellipsis => "Ellipsis"
  | .contract c => c.display
  | .library c => c.display
  | .special s => if s.isClass then "<class '" ++ s.fullName ++ "'>" else s.fullName
  | a => a.text

/-- The atom is a class. -/
def Atom.isClass : Atom → Bool
  | .noneType => true
  | .any => true
  | .contract _ => true
  | .library _ => true
  | .special s => s.isClass
  | _ => false

/-- The name of an atom in a report: the full name of a class, the spelling of all else. -/
def Atom.title : Atom → String
  | .noneType => "builtins.NoneType"
  | .library c => c.fullName
  | .contract c => c.fullName
  | .special s => s.fullName
  | a => a.display

/-- The name of a class without the names around it, and the spelling of all else. -/
def Atom.shortText : Atom → String
  | .contract c => c.name
  | .library c => c.name
  | .special s => if s.isClass then s.name else s.fullName
  | .any => "Any"
  | a => a.display

/-- The atom that stands alone where a head stands in brackets. -/
def Head.atom : Head → Atom
  | .contract c => .contract c
  | .library c => .library c
  | .alias a => .alias a
  | .special s => .special s

/-- A form in brackets behind a name. -/
def bracketed (name : String) (arguments : List String) : String :=
  name ++ "[" ++ (if arguments.isEmpty then "()" else Text.join ", " arguments) ++ "]"

namespace Form

/-- The arguments of a callable whose arguments are not left open. -/
def isClosedCall (head : Head) (arguments : List Form) : Bool :=
  let isOpen := arguments.length = 2 && arguments.head?.any isEllipsis
  match head with
  | .alias a => a.arity = .call && !isOpen
  | .library c => c = .callable && !isOpen
  | _ => false

/-- Several values written as one. -/
def groupDisplay (grouping : Grouping) (items : List String) : String :=
  if grouping = .set && items.isEmpty then "set()" else Expression.groupText grouping items

mutual

/-- The spelling of a form inside brackets. -/
def text : Form → String
  | .atom a => a.text
  | .generic head arguments =>
    let inside := texts arguments
    if isClosedCall head arguments then
      head.atom.text ++ "[[" ++ Text.join ", " inside.dropLast ++ "], " ++
        inside.getLast?.getD "" ++ "]"
    else bracketed head.atom.text inside
  | .union true options => Text.join " | " (optionTexts options)
  | .union false [option, .atom .noneType] => bracketed "typing.Optional" [option.text]
  | .union false [.atom .noneType, option] => bracketed "typing.Optional" [option.text]
  | .union false options => bracketed "typing.Union" (texts options)
  | .annotated type notes => bracketed "typing.Annotated" (type.text :: displays notes)
  | .initVariable (.atom a) => bracketed "dataclasses.InitVar" [a.shortText]
  | .initVariable (.group grouping items) =>
    bracketed "dataclasses.InitVar" [groupDisplay grouping (displays items)]
  | .initVariable type => bracketed "dataclasses.InitVar" [type.text]
  | .group grouping items => groupDisplay grouping (displays items)

/-- The spellings of several forms inside brackets. -/
def texts : List Form → List String
  | [] => []
  | form :: rest => form.text :: texts rest

/-- The spellings of options between bars. -/
def optionTexts : List Form → List String
  | [] => []
  | .atom .noneType :: rest => "None" :: optionTexts rest
  | form :: rest => form.text :: optionTexts rest

/-- The spellings of several forms as values. -/
def displays : List Form → List String
  | [] => []
  | .atom a :: rest => a.display :: displays rest
  | form :: rest => form.text :: displays rest

end

/-- The spelling of a form as a value. -/
def display : Form → String
  | .atom a => a.display
  | form => form.text

/-- The name of a form in a report. -/
def title : Form → String
  | .atom a => a.title
  | form => form.text

/-! ## Variables -/

mutual

/-- The type variables of a form, each once, in the order of their first occurrence. -/
def typeVariables : Form → List TypeVariable
  | .atom (.variable v) => [v]
  | .atom _ => []
  | .generic _ arguments => typeVariablesOf arguments
  | .union _ options => typeVariablesOf options
  | .annotated type _ => type.typeVariables
  | .initVariable _ => []
  | .group .. => []

/-- The type variables of several forms, each once. -/
def typeVariablesOf : List Form → List TypeVariable
  | [] => []
  | form :: rest => (typeVariablesOf rest).foldl Distinct.add form.typeVariables

end

end Form

end TypeContracts
