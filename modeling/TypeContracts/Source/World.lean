import TypeContracts.Files.Location
import TypeContracts.Source.Enumeration
import TypeContracts.Source.Library.Attributes
import TypeContracts.Source.Operation

/-!
# What the contract modules have defined

Executing contract modules defines classes, type variables and names. The classes are
numbered in the order of their definition and are never changed or removed, so that a
class that was replaced in its module still serves whoever refers to it.

What a class inherits is found along its lineage: the list of the class and all its
ancestors in the order in which they are asked. Names that a class body assigns can stand in
for what is otherwise known of a class, its annotations and its type parameters among them.
-/

set_option autoImplicit false

namespace TypeContracts

/-! ## Names in a scope -/

/-- Names with what they stand for, in the order of their first definition. -/
abbrev Scope := List (String × Form)

namespace Scope

/-- What a name stands for. -/
def find? (scope : Scope) (name : String) : Option Form := scope.lookup name

/-- The scope of the names of spaces. -/
def ofSpaces (spaces : List String) : Scope :=
  spaces.map fun space => (Expression.spaceName space, .atom (.space space))

/-- The scope without a name. -/
def erase (scope : Scope) (name : String) : Scope := scope.filter (·.1 ≠ name)

/-- The scope after a definition. A name that is there keeps its place. -/
def assign (scope : Scope) (name : String) (form : Form) : Scope :=
  if scope.any (·.1 = name) then
    scope.map fun entry => if entry.1 = name then (name, form) else entry
  else scope ++ [(name, form)]

@[simp] theorem find?_assign (scope : Scope) (name : String) (form : Form) :
    (scope.assign name form).find? name = some form := by
  unfold assign find?
  split
  next known =>
    induction scope with
    | nil => simp at known
    | cons entry rest ih =>
      obtain ⟨key, value⟩ := entry
      by_cases same : key = name
      · simp [same]
      · have behind : rest.any (·.1 = name) = true := by simpa [same] using known
        have other : (name == key) = false := by simpa using fun e : name = key => same e.symm
        simpa [same, List.lookup_cons, other] using ih behind
  next unknown =>
    induction scope with
    | nil => simp
    | cons entry rest ih =>
      obtain ⟨key, value⟩ := entry
      have differs : ¬key = name := by
        intro same
        simp [same] at unknown
      have behind : ¬rest.any (·.1 = name) = true := by
        intro found
        exact unknown (by simp [found])
      have other : (name == key) = false := by simpa using fun e : name = key => differs e.symm
      simpa [List.lookup_cons, other] using ih behind

end Scope

/-! ## Classes -/

/-- What a field of a record class is. -/
inductive FieldKind where
  | plain
  | classVariable
  | initVariable
deriving DecidableEq, Repr

/-- A field of a record class. -/
structure RecordField where
  name : String
  kind : FieldKind
  hasDefault : Bool
deriving Repr

/-- What a class keeps as its annotations: those of its fields, or a value that its body
assigned in their place. -/
inductive Annotations where
  | fields (scope : Scope)
  | other (value : Form)

/-- A class that a contract module has defined. `lineage` starts with the class itself.
`storage` is the class whose way of storing instances it has, and `isOffer` tells that it
only says what its instances offer. `written` holds, for a class with generic bases, its bases
as they are written, or the sort of the value that stands in their place, and `argued` the
parameters of these bases with their arguments; `fields` the fields of a record class. -/
structure ClassRecord where
  ref : ClassRef
  bases : List Ancestor
  lineage : List Ancestor
  storage : Ancestor
  isOffer : Bool := false
  annotations : Annotations := .fields []
  scope : Scope := []
  written : Option (Except String (List Form)) := none
  argued : Option (Except String (List (TypeVariable × Form))) := none
  fields : Option (List RecordField) := none
  enumeration : Option EnumerationMembers := none
deriving Inhabited

/-- A module that was loaded, or is being loaded. A directory of modules has no file, and a
module without a path is no package for those that import from below it. -/
structure LoadedModule where
  scope : Scope := []
  isPackage : Bool := false
  file : Option Location := none
  isComplete : Bool := false
deriving Inhabited

/-- All that was defined so far. -/
structure World where
  classes : Array ClassRecord := #[]
  typeVariables : Nat := 0
  modules : List (String × LoadedModule) := []
deriving Inhabited

/-! ## Names that stand in -/

/-- The name under which a class keeps its annotations. -/
def annotationsName : String := "__annotations__"

/-- The name under which a class keeps its type parameters. -/
def parametersName : String := "__parameters__"

/-- The name under which a class keeps its bases as they are written. -/
def basesName : String := "__orig_bases__"

/-- The name under which a record class keeps its fields. -/
def fieldsName : String := "__dataclass_fields__"

/-- The name under which a class keeps how it takes arguments in brackets. -/
def bracketsName : String := "__class_getitem__"

/-- The name under which a class keeps what is called when a class is derived from it. -/
def derivationName : String := "__init_subclass__"

namespace Ancestor

/-- The record of a class of the contracts. -/
def record? (world : World) : Ancestor → Option ClassRecord
  | .contract number => world.classes[number]?
  | .library _ => none

/-- The lineage of a class, the class first. -/
def lineage (world : World) : Ancestor → List Ancestor
  | .contract number => ((world.classes[number]?).map ClassRecord.lineage).getD [.contract number]
  | .library c => c.lineage.map .library

/-- The class of a class. -/
def metaclass (world : World) : Ancestor → Metaclass
  | .contract number => ((world.classes[number]?).map (·.ref.metaclass)).getD .plain
  | .library c => c.metaclass

/-- The class whose way of storing instances a class has. -/
def storage (world : World) : Ancestor → Ancestor
  | .contract number => ((world.classes[number]?).map ClassRecord.storage).getD (.contract number)
  | .library c => .library c.storage

/-- A class is another one or derived from it. -/
def extendsTo (world : World) (a b : Ancestor) : Bool := (a.lineage world).contains b

/-- The name of a class in a report. -/
def label (world : World) : Ancestor → String
  | .contract number => ((world.classes[number]?).map (·.ref.name)).getD ""
  | .library c => c.name

/-- The spelling of a class as a value. -/
def display (world : World) : Ancestor → String
  | .contract number => ((world.classes[number]?).map (·.ref.display)).getD ""
  | .library c => c.display

/-- The root of the classes with type parameters. -/
def generic : Ancestor := .library .generic

/-- The root of the classes that only say what they offer. -/
def protocol : Ancestor := .library .protocol

end Ancestor

namespace World

/-- The record of a class. -/
def record? (world : World) (c : ClassRef) : Option ClassRecord := world.classes[c.number]?

/-- A module that was loaded. -/
def module? (world : World) (name : String) : Option LoadedModule := world.modules.lookup name

/-- The names of a module. -/
def moduleScope (world : World) (name : String) : Scope :=
  ((world.module? name).map LoadedModule.scope).getD []

/-- The records of the contract classes in a lineage. -/
def records (world : World) (lineage : List Ancestor) : List ClassRecord :=
  lineage.filterMap (Ancestor.record? world)

/-- The first answer that the classes of a lineage give. -/
def inherited? {α : Type} (world : World) (lineage : List Ancestor)
    (answer : ClassRecord → Option α) : Option α :=
  (world.records lineage).findSome? answer

/-- What the name of an attribute stands for in a class of the contracts. -/
def attribute? (world : World) (lineage : List Ancestor) (name : String) : Option Form :=
  world.inherited? lineage fun ancestor => ancestor.scope.find? name

/-- A library class in a lineage has something under a name. -/
def isOffered (lineage : List Ancestor) (name : String) : Bool :=
  LibraryClass.commonAttributes.contains name ||
    lineage.any fun ancestor =>
      match ancestor with
      | .library c => c.offers name
      | .contract _ => false

/-- The fields of a class that is, or inherits from, a record class, or the sort of the
value that stands in their place. -/
def recordFields? (world : World) (record : ClassRecord) :
    Option (Except String (List RecordField)) :=
  world.inherited? record.lineage fun ancestor =>
    match ancestor.fields with
    | some fields => some (.ok fields)
    | none => (ancestor.scope.find? fieldsName).map fun value => .error value.sort

/-- The arguments for the parameters of the bases of a class, or the sort of the value that
stands in the place of its bases. -/
def baseArguments (world : World) (record : ClassRecord) :
    Except String (List (TypeVariable × Form)) :=
  (world.inherited? record.lineage ClassRecord.argued).getD (.ok [])

/-- A class has type parameters that are left open: its own, or a value in their place. -/
def isOpen (world : World) (record : ClassRecord) : Bool :=
  (world.inherited? record.lineage fun ancestor =>
    if ancestor.lineage.contains Ancestor.generic then some !ancestor.ref.parameters.isEmpty
    else (ancestor.scope.find? parametersName).map Form.isTrue).getD false

/-- Why a class cannot tell its annotations, if it cannot. -/
def badAnnotations? (record : ClassRecord) : Option String :=
  match record.annotations with
  | .fields _ => none
  | .other (.atom .none) => none
  | .other _ => some (record.ref.display ++ ".__annotations__ is neither a dict nor None")

/-- The annotations of the fields of a class. -/
def ownAnnotations (record : ClassRecord) : Scope :=
  match record.annotations with
  | .fields scope => scope
  | .other _ => []

/-- A class has annotated fields: it is a record class, or an ancestor has annotations. The
ancestors are asked in turn, and one that cannot tell is a failure. -/
def isStructured (world : World) (record : ClassRecord) : Except String Bool :=
  if (world.recordFields? record).isSome then .ok true
  else go (world.records record.lineage)
where
  /-- Asks one ancestor after another. -/
  go : List ClassRecord → Except String Bool
    | [] => .ok false
    | ancestor :: rest =>
      match badAnnotations? ancestor with
      | some report => .error report
      | none => if (ownAnnotations ancestor).isEmpty then go rest else .ok true

/-- The members of an enumeration of the contracts. -/
def membersOf? (world : World) (c : ClassRef) : Option EnumerationMembers :=
  (world.record? c).bind ClassRecord.enumeration

/-- A member of an enumeration as a form. -/
def memberForm (c : ClassRef) (members : EnumerationMembers) (member : EnumMember) : Form :=
  .atom (.member ⟨c, member.name, member.value, members.style.sort != .any⟩)

end World

end TypeContracts
