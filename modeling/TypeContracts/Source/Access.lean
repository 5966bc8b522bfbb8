import TypeContracts.Source.Lookup

/-!
# Brackets, attributes and calls

What stands behind a form in an annotation: arguments in brackets, the name of an
attribute, or the arguments of a call. A class of the contracts takes arguments as its
ancestors do, an enumeration gives its members by name and by value, and a typing name
hands attributes and calls on to the class that it stands for.
-/

set_option autoImplicit false

namespace TypeContracts

namespace World

/-! ## Brackets -/

/-- How a class takes arguments in brackets. -/
inductive BracketRule where
  | parameters
  | anything
  | call
  | value (sort : String)

/-- How the first ancestor that takes arguments in brackets does it: by its type
parameters, as a container of any arguments, as callables do, or not at all, where a value
stands in. -/
def bracketRule? (world : World) (ancestor : Ancestor) : Option BracketRule :=
  match ancestor with
  | .library c =>
    if c = .generic || c = .protocol then some .parameters
    else if c = .callable then some .call
    else if c.isSubscriptable && c != .builtin "type" then some .anything
    else none
  | .contract number =>
    ((world.classes[number]?).bind fun record => record.scope.find? bracketsName).map fun value =>
      .value value.sort

/-- The member of an enumeration with a name in brackets. -/
def memberNamed (world : World) (c : ClassRef) (index : Form) : Formed :=
  match index.changing?, index, world.membersOf? c with
  | some sort, _, _ => .error (.unhashable sort)
  | _, .atom (.scalar (.text name)), some members =>
    match members.named.lookup name with
    | some member => .ok (memberForm c members member)
    | none => .error (.noEntry name)
  | _, .atom (.scalar (.text name)), none => .error (.noEntry name)
  | _, index, _ => .error (.noKey index.display)

/-- A class of the contracts with an index in brackets. -/
def subscriptClass (world : World) (c : ClassRef) (index : Form) : Formed :=
  if c.isEnumeration then world.memberNamed c index
  else
    match (Ancestor.lineage world (.contract c.number)).findSome? world.bracketRule? with
    | some .parameters => Form.applyContract c index.arguments
    | some .anything => .ok (.generic (.contract c) index.arguments)
    | some .call => (Form.callArguments index.arguments).map (.generic (.contract c))
    | some (.value sort) => .error (.notCallable sort)
    | none => .error (.notSubscriptable ("type '" ++ c.name ++ "'"))

/-- A form with an index in brackets behind it. -/
def subscript (world : World) (head index : Form) : Formed :=
  match head with
  | .atom (.contract c) => world.subscriptClass c index
  | .atom (.library c) =>
    if c.role = .enumeration then
      match index with
      | .atom (.scalar (.text name)) => .error (.noEntry name)
      | index => .error (.noKey index.display)
    else Form.applyLibrary c index.arguments
  | .atom (.alias a) => Form.applyAlias a index.arguments
  | .atom (.special s) => Form.applySpecial s index
  | .atom .any => .error (.notSubscriptable "type 'Any'")
  | .atom .noneType => .error (.notSubscriptable "type 'NoneType'")
  | .atom a => Operation.index (.atom a) index
  | .group grouping items => Operation.index (.group grouping items) index
  | .initVariable type => Operation.index (.initVariable type) index
  | form => Form.applyAgain form index.arguments

/-! ## Attributes -/

/-- A name with two underscores at either end. -/
def isDouble (name : String) : Bool := Text.startsWith "__" name && Text.endsWith "__" name

/-- What is there without being told further. -/
def opaqueForm (name : String) : Form := .atom (.object "method_descriptor" name)

/-- The attribute of a class of the library. -/
def libraryAttribute (c : LibraryClass) (name : String) : Formed :=
  if isOffered (c.lineage.map .library) name || c.metaclass.attributes.contains name then
    .ok (opaqueForm name)
  else if c.role = .enumeration then .error (.noMember name)
  else .error (.noAttribute ("type object '" ++ c.label ++ "'") name)

/-- The attribute of a class of the contracts. -/
def classAttribute (world : World) (c : ClassRef) (name : String) : Formed :=
  let lineage := Ancestor.lineage world (.contract c.number)
  match world.attribute? lineage name, name with
  | some form, _ => .ok form
  | none, "__name__" => .ok (Form.ofValue (.text c.name))
  | none, "__qualname__" => .ok (Form.ofValue (.text c.path))
  | none, "__module__" => .ok (Form.ofValue (.text c.space))
  | none, name =>
    if isOffered lineage name || c.metaclass.attributes.contains name then .ok (opaqueForm name)
    else if c.isEnumeration then .error (.noMember name)
    else .error (.noAttribute ("type object '" ++ c.name ++ "'") name)

/-- The attribute of a member of an enumeration: its name, its value, or what its class
has. -/
def memberAttribute (world : World) (m : OwnedMember) (name : String) : Formed :=
  match name with
  | "name" | "_name_" => .ok (Form.ofValue (.text m.name))
  | "value" | "_value_" => .ok (Form.ofValue m.value)
  | name =>
    match world.classAttribute m.owner name with
    | .ok form => .ok form
    | .error _ => .error (.noAttribute ("'" ++ m.owner.name ++ "' object") name)

/-- The attribute of a space: a name of a module that was loaded, or of the library. -/
def spaceAttribute (world : World) (space name : String) : Formed :=
  let found := match world.module? space with
    | some loaded => loaded.scope.find? name
    | none => Lookup.inLibrary space name
  match found with
  | some form => .ok form
  | none => .error (.noAttribute ("module '" ++ space ++ "'") name)

/-- The attribute of a form. -/
def attributeOf (world : World) (owner : Form) (name : String) : Formed :=
  match owner with
  | .atom (.contract c) => world.classAttribute c name
  | .atom (.library c) => libraryAttribute c name
  | .atom (.space space) => world.spaceAttribute space name
  | .atom (.member m) => world.memberAttribute m name
  | .atom (.alias a) => handedOn (libraryAttribute a.origin name)
  | .atom .any => libraryAttribute (.typing "Any") name
  | .atom (.special s) =>
    match s.class? with
    | some c => libraryAttribute c name
    | none => .error (.noMember name)
  | .generic (.library c) _ => libraryAttribute c name
  | .generic (.alias a) _ => handedOn (libraryAttribute a.origin name)
  | .generic (.contract c) _ => handedOn (world.classAttribute c name)
  | .generic (.special _) _ => .error (.noMember name)
  | .union false _ => .error (.noMember name)
  | .annotated type _ => handedOn (world.attributeOf type name)
  | form => .error (.noAttribute ("'" ++ form.sort ++ "' object") name)
where
  /-- Names between double underscores are not handed on. -/
  handedOn (found : Formed) : Formed := if isDouble name then .error (.noMember name) else found

/-! ## Calls -/

/-- What a record class takes when it is called. -/
def signatureOf (c : ClassRef) (fields : List RecordField) : Signature :=
  let taken := fields.filter (·.kind != .classVariable)
  { owner := c.path ++ ".__init__"
    needed := (taken.filter (!·.hasDefault)).map RecordField.name
    most := taken.length }

/-- What initialises the instances of a class with the given lineage: the call of the first
record class in it, unless a value stands in its place. -/
def initialiser? (world : World) (lineage : List Ancestor) : Option Initialiser :=
  world.inherited? lineage fun ancestor =>
    match ancestor.scope.find? Enumeration.initialiserName with
    | some value => some (.value value.sort)
    | none => ancestor.fields.map fun fields => .call (signatureOf ancestor.ref fields)

/-- How an instance of a record class is written. -/
def shapeOf (c : ClassRef) (fields : List RecordField) : InstanceShape where
  owner := c.name
  path := c.path
  fields := (fields.filter (·.kind = .plain)).map RecordField.name

/-- How an instance is written of the first record class in a lineage. -/
def shape? (world : World) (lineage : List Ancestor) : Option InstanceShape :=
  world.inherited? lineage fun ancestor => ancestor.fields.map (shapeOf ancestor.ref)

/-- An enumeration that is called with a value. -/
def memberWith (world : World) (c : ClassRef) : List Form → Formed
  | [] => .error (.missingArguments "EnumType.__call__" ["value"])
  | [.atom (.member m)] =>
    if m.owner.number = c.number then .ok (.atom (.member m)) else withValue (.atom (.member m))
  | [form] => withValue form
  | arguments => .error (.extraArguments "EnumType.__call__" 2 3 (arguments.length + 1))
where
  /-- The member with the value of a form. -/
  withValue (form : Form) : Formed :=
    let found := (world.membersOf? c).bind fun members =>
      (Enumeration.memberOf? members form.value).map (memberForm c members)
    match found with
    | some form => .ok form
    | none => .error (.notMember form.display c.path)

/-- A class of the contracts that is called. -/
def callClass (world : World) (c : ClassRef) (arguments : List Form) : Formed :=
  match world.record? c with
  | none => .error (.notCallable "type")
  | some record =>
    if c.isEnumeration then world.memberWith c arguments
    else if record.isOffer then .error .onlyOffer
    else
      match (world.initialiser? record.lineage).bind (·.fault? arguments.length),
        world.recordFields? record with
      | some fault, _ => .error fault
      | none, some (.ok fields) =>
        .ok (.atom (.object c.name ((shapeOf c fields).text (Form.displays arguments))))
      | none, _ =>
        if arguments.isEmpty || record.lineage.any fun ancestor =>
            ancestor.storage world != .library .object then
          .ok (.atom (.object c.name ("<" ++ c.fullName ++ " object>")))
        else .error (.noArguments c.name)

/-- A class of the library that is called. -/
def callLibrary (c : LibraryClass) (arguments : List Form) : Formed :=
  let made (rule : List EnumValue → Coercion.Made) : Formed :=
    match rule (Form.values arguments) with
    | .ok value => .ok (Form.ofValue value)
    | .error fault => .error (.uncoercible fault)
  let grouped (grouping : Grouping) : Formed :=
    match arguments with
    | [] => .ok (.group grouping [])
    | [.group .tuple items] => .ok (.group grouping items)
    | [.group .list items] => .ok (.group grouping items)
    | [.group .set items] => .ok (.group grouping items)
    | [form] => .error (.uncoercible (.noIterable form.sort))
    | _ => .error (.uncoercible (.unexpected grouping.sort 1 arguments.length))
  match c.space, c.name with
  | "builtins", "int" => made Coercion.toWhole
  | "builtins", "str" => made Coercion.toText
  | "builtins", "float" => made Coercion.toReal
  | "builtins", "bool" =>
    match arguments with
    | [form] => .ok (Form.ofFlag form.isTrue)
    | _ => made Coercion.toFlag
  | "builtins", "tuple" => grouped .tuple
  | "builtins", "list" => grouped .list
  | "builtins", "set" => grouped .set
  | "builtins", "dict" => if arguments.isEmpty then grouped .map else .ok (opaqueForm c.name)
  | _, _ =>
    if c.isException then
      .ok (.atom (.object c.name (c.name ++ "(" ++ Text.join ", " (Form.displays arguments) ++ ")")))
    else .ok (.atom (.object c.name ("<" ++ c.fullName ++ " object>")))

/-- A form that is called. -/
def call (world : World) (head : Form) (arguments : List Form) : Formed :=
  match head with
  | .atom (.contract c) => world.callClass c arguments
  | .atom (.library c) => callLibrary c arguments
  | .atom .any => .error (.notInstantiated "Any")
  | .atom .noneType =>
    if arguments.isEmpty then .ok (.atom .none) else .error (.noArguments "NoneType")
  | .atom (.alias a) => .error (.onlyAlias a.name a.origin.name)
  | .atom (.special .annotated) => .error (.notInstantiated "Type Annotated")
  | .atom (.special .protocol) => .error .onlyOffer
  | .atom (.special .initVariable) =>
    match arguments with
    | [] => .error (.missingArguments "InitVar.__init__" ["type"])
    | [type] => .ok (.initVariable type)
    | _ => .error (.extraArguments "InitVar.__init__" 2 2 (arguments.length + 1))
  | .atom (.special s) => .error (.notMade s.fullName)
  | .generic (.library c) _ => callLibrary c arguments
  | .generic (.contract c) _ => world.callClass c arguments
  | .generic (.alias a) _ => .error (.onlyAlias a.name a.origin.name)
  | .generic (.special s) _ => .error (.notMade s.fullName)
  | .union false _ => .error (.notMade Special.union.fullName)
  | .annotated type _ => world.call type arguments
  | form => .error (.notCallable form.sort)

/-! ## Operators -/

/-- Two flags of one enumeration with a bar between them. -/
def flagsTogether? (world : World) (left right : Form) : Option Form :=
  match left, right with
  | .atom (.member m), .atom (.member n) => do
    let members ← world.membersOf? m.owner
    let a ← m.value.whole?
    let b ← n.value.whole?
    if m.owner.isFlags && m.owner.number = n.owner.number then
      let member ← Enumeration.memberOf? members (.integer (Operation.bitwise or a b))
      return memberForm m.owner members member
    else none
  | _, _ => none

/-- Two operands with an operator between them. -/
def combine (world : World) (operator : Operator) (left right : Form) : Formed :=
  match operator, world.flagsTogether? left right with
  | .either, some form => .ok form
  | operator, _ => Operation.combine operator left right

end World

end TypeContracts
