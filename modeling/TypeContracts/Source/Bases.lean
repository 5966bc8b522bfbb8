import TypeContracts.Source.Hint

/-!
# The bases of a class

From the bases of a class as they are written to what the class inherits: the classes that
they stand for, the class of the class, the way its instances are stored, its lineage, and
its type parameters. Each way in which a class cannot be made is a cause of its own.
-/

set_option autoImplicit false

namespace TypeContracts

/-! ## Faults -/

/-- Why a class cannot be defined. -/
inductive ClassFault where
  | evaluation (fault : AnnotationFault)
  | enumeration (fault : EnumerationFault)
  | noBase (base : String)
  | noClass (sort bases : String)
  | noClassAmong
  | spoiled (sort : String)
  | metaclasses
  | closed (name : String)
  | storages
  | fullStorage (name : String)
  | badSlot (sort : String)
  | strangeSlot
  | takenSlot (name : String)
  | badPath (sort : String)
  | repeatedBase (name : String)
  | noOrder (heads : List String)
  | plainGeneric
  | repeatedGeneric
  | unlistedVariables (unlisted listed : List String)
  | sealed (space : String)
  | noOffer (base : String)
  | extendsMembers (name base : String)
  | noEnumeration
  | manySorts (name : String) (sorts : List String)
  | defaultBefore (field : String)
  | sharedDefault (sort field : String)
deriving DecidableEq, Repr

namespace ClassFault

/-- The report on bases that are values of the given sort, which would make another value
in the place of a class. -/
def noClassMessage (sort bases : String) : String :=
  match sort with
  | "NoneType" | "NotImplementedType" => sort ++ " takes no arguments"
  | "ellipsis" => "EllipsisType takes no arguments"
  | "int" | "module" => sort ++ "() takes at most 2 arguments (3 given)"
  | "bool" | "float" | "list" | "tuple" | "set" | "dict" =>
    sort ++ " expected at most 1 argument, got 3"
  | "str" => "str() argument 'encoding' must be str, not tuple"
  | "TypeVar" =>
    (AnnotationFault.notTypes "TypeVar(name, constraint, ...): constraints must be types."
      bases).message
  | "InitVar" => (AnnotationFault.extraArguments "InitVar.__init__" 2 2 4).message
  | "function" => "function() argument 'code' must be code, not str"
  | sort => "cannot create '" ++ sort ++ "' instances"

/-- The report of a fault. -/
def message : ClassFault → String
  | .evaluation fault => fault.message
  | .enumeration fault => fault.message
  | .noBase base => "Cannot subclass " ++ base
  | .noClass sort bases => noClassMessage sort bases
  | .noClassAmong => "issubclass() arg 1 must be a class"
  | .spoiled sort => (AnnotationFault.notCallable sort).message
  | .metaclasses =>
    "metaclass conflict: the metaclass of a derived class must be a (non-strict) subclass " ++
      "of the metaclasses of all its bases"
  | .closed name => "type '" ++ name ++ "' is not an acceptable base type"
  | .storages => "multiple bases have instance lay-out conflict"
  | .fullStorage name => "nonempty __slots__ not supported for subtype of '" ++ name ++ "'"
  | .badSlot sort => "__slots__ items must be strings, not '" ++ sort ++ "'"
  | .strangeSlot => "__slots__ must be identifiers"
  | .takenSlot name => Text.quoted name ++ " in __slots__ conflicts with class variable"
  | .badPath sort => "type __qualname__ must be a str, not " ++ sort
  | .repeatedBase name => "duplicate base class " ++ name
  | .noOrder heads =>
    "Cannot create a consistent method resolution\norder (MRO) for bases " ++
      Text.join ", " heads
  | .plainGeneric => "Cannot inherit from plain Generic"
  | .repeatedGeneric => "Cannot inherit from Generic[...] multiple times."
  | .unlistedVariables unlisted listed =>
    "Some type variables (" ++ Text.join ", " unlisted ++ ") are not listed in Generic[" ++
      Text.join ", " listed ++ "]"
  | .sealed space => "Cannot subclass " ++ space ++ ".Annotated"
  | .noOffer base => "Protocols can only inherit from other protocols, got " ++ base
  | .extendsMembers name base => "<enum '" ++ name ++ "'> cannot extend " ++ base
  | .noEnumeration =>
    "new enumerations should be created as `EnumName([mixin_type, ...] [data_type,] enum_type)`"
  | .manySorts name sorts =>
    "too many data types for " ++ Text.quoted name ++ ": " ++ Expression.groupText .set sorts
  | .defaultBefore field =>
    "non-default argument " ++ Text.quoted field ++ " follows default argument"
  | .sharedDefault sort field =>
    "mutable default <class '" ++ sort ++ "'> for field " ++ field ++
      " is not allowed: use default_factory"

/-- A fault as a message quotes it. -/
def shown : ClassFault → String
  | .evaluation fault => fault.shown
  | fault => fault.message

/-- The kind of exception that a fault is raised as. -/
def kind : ClassFault → String
  | .evaluation fault => fault.kind
  | .enumeration fault => fault.kind
  | .sharedDefault .. | .takenSlot _ => "ValueError"
  | _ => "TypeError"

end ClassFault

namespace Bases

/-! ## What bases stand for -/

/-- What a base stands for: a class, or a value that is no class. -/
inductive Base where
  | made (c : Ancestor)
  | value (form : Form)

/-- The enumeration whose member stands in the place of a base. -/
def memberOf? : Base → Option ClassRef
  | .value (.atom (.member m)) => some m.owner
  | _ => none

/-- A form of typing that is applied to arguments, or could be. -/
def isTypingBase : Form → Bool
  | .atom (.alias _) => true
  | .generic head _ => !Form.isPlainHead head
  | .union barred _ => !barred
  | .annotated .. => true
  | _ => false

/-- A class that declares or inherits type parameters. -/
def isGenericBase (world : World) : Form → Bool
  | .atom (.special .generic) => true
  | .atom (.special .protocol) => true
  | .atom (.contract c) => (Ancestor.lineage world (.contract c.number)).contains .generic
  | _ => false

/-- The class that an atom is. -/
def classOf? : Atom → Option Ancestor
  | .contract c => some (.contract c.number)
  | .library c => some (.library c)
  | .any => some (.library (.typing "Any"))
  | .noneType => some (.library .missing)
  | .special s => s.class?.map .library
  | _ => none

/-- A base is the class of the library. -/
def isLibrary (c : LibraryClass) : Form → Bool
  | .atom a => classOf? a = some (.library c)
  | _ => false

/-- A base in its place among the others. -/
structure PlacedBase where
  before : List Form
  form : Form
  later : List Form

namespace PlacedBase

/-- All bases. -/
def all (base : PlacedBase) : List Form := base.before ++ base.form :: base.later

/-- The bases behind the first one that is the same as the base, which may be itself. -/
def behind (base : PlacedBase) : List Form :=
  match base.before.dropWhile fun other => !other.same base.form with
  | [] => base.later
  | _ :: rest => rest ++ base.form :: base.later

end PlacedBase

/-- One of some bases brings the root of generic classes. They are asked in turn, and only
classes can be asked. -/
def bringsGeneric (world : World) : List Form → Except ClassFault Bool
  | [] => .ok false
  | form :: rest =>
    if isTypingBase form || isGenericBase world form then .ok true
    else
      match form with
      | .atom a => if (classOf? a).isSome then bringsGeneric world rest else .error .noClassAmong
      | .generic .. => bringsGeneric world rest
      | _ => .error .noClassAmong

/-- The classes of a typing alias: its class, and the root of generic classes where no
later base brings it. -/
def ofAlias (world : World) (base : PlacedBase) (a : Alias) : Except ClassFault (List Base) := do
  let own : List Base :=
    if base.all.any (isLibrary a.origin) then [] else [.made (.library a.origin)]
  return if ← bringsGeneric world base.behind then own else own ++ [.made .generic]

/-- What a base stands for among all bases. A declaration of type parameters adds nothing
where a later base brings them. -/
def ofBase (world : World) (base : PlacedBase) : Except ClassFault (List Base) :=
  match base.form with
  | .atom (.alias a) => ofAlias world base a
  | .atom (.special s) =>
    match s.class? with
    | some c => .ok [.made (.library c)]
    | none => .error (.noBase s.fullName)
  | .atom a =>
    match classOf? a with
    | some c => .ok [.made c]
    | none => .ok [.value (.atom a)]
  | .generic (.contract c) _ => .ok [.made (.contract c.number)]
  | .generic (.library c) _ => .ok [.made (.library c)]
  | .generic (.alias a) _ => ofAlias world base a
  | .generic (.special .generic) _ =>
    let others := base.behind.filter fun form => !form.same base.form
    if base.all.any (isLibrary .protocol) || others.any isTypingBase then .ok []
    else .ok [.made .generic]
  | .generic (.special .protocol) _ => .ok [.made .protocol]
  | .generic (.special s) arguments => .error (.noBase (Form.generic (.special s) arguments).text)
  | .union false options => .error (.noBase (Form.union false options).text)
  | .annotated (.atom a) notes =>
    match classOf? a with
    | some c => .ok [.made c]
    | none => .ok [.value (.annotated (.atom a) notes)]
  | form => .ok [.value form]

/-- What the bases of a class stand for, behind those before them. -/
def resolved (world : World) (before : List Form) : List Form → Except ClassFault (List Base)
  | [] => .ok []
  | form :: later => do
    let first ← ofBase world ⟨before, form, later⟩
    return first ++ (← resolved world (before ++ [form]) later)

/-- A base is asked for the classes that it stands for. -/
def isAsked : Form → Bool
  | .generic .. => true
  | .atom (.alias _) => true
  | .annotated .. => true
  | _ => false

/-! ## The class of a class -/

/-- What makes a class: the class of classes that its bases agree on, or the sort of the
values among its bases. -/
inductive Maker where
  | metaclass (m : Metaclass)
  | sort (name : String)
deriving DecidableEq

/-- The maker of a base. -/
def makerOf (world : World) : Base → Maker
  | .made c => .metaclass (c.metaclass world)
  | .value form => .sort form.sort

/-- Whatever one maker makes, the other makes too. -/
def Maker.extendsTo : Maker → Maker → Bool
  | .metaclass a, .metaclass b => a.extendsTo b
  | .sort a, .sort b => a = b || (a = "bool" && b = "int")
  | _, _ => false

/-- The maker that all bases agree on. -/
def maker (world : World) : List Base → Except ClassFault Maker
  | [] => .ok (.metaclass .plain)
  | first :: rest =>
    rest.foldlM (fun winner base =>
      let other := makerOf world base
      if winner.extendsTo other then .ok winner
      else if other.extendsTo winner then .ok other
      else .error .metaclasses) (makerOf world first)

/-- The classes among bases. -/
def classes (bases : List Base) : List Ancestor :=
  bases.filterMap fun base => match base with | .made c => some c | .value _ => none

/-! ## Storage -/

/-- The base whose way of storing instances a class takes over. -/
def bestBase (world : World) (bases : List Ancestor) : Except ClassFault Ancestor :=
  match bases with
  | [] => .ok (.library .object)
  | first :: rest => do
    checkOpen first
    rest.foldlM (fun best base => do
      checkOpen base
      let winner := best.storage world
      let candidate := base.storage world
      if winner.extendsTo world candidate then return best
      else if candidate.extendsTo world winner then return base
      else throw .storages) first
where
  /-- Classes can be derived from the base. -/
  checkOpen (base : Ancestor) : Except ClassFault Unit :=
    match base with
    | .library c => if c.isClosed then .error (.closed c.label) else .ok ()
    | .contract _ => .ok ()

/-- The instances of a class have no fixed size. -/
def isVariable (world : World) (base : Ancestor) : Bool :=
  (base.lineage world).any fun ancestor =>
    match ancestor with
    | .library c => c.isVariable
    | .contract _ => false

/-- The names that a class body tells to be the only ones that its instances have. A class
whose instances have no fixed size can have none. -/
def slotNames (world : World) (best : Ancestor) (value : Form) :
    Except ClassFault (List String) := do
  let parts ← match value with
    | .atom (.scalar (.text text)) => pure [EnumValue.text text]
    | value =>
      (Coercion.parts value.value).mapError fun fault => .evaluation (.uncoercible fault)
  if !parts.isEmpty && isVariable world best then throw (.fullStorage (best.label world))
  parts.mapM fun part =>
    match part with
    | .text name => if Text.isIdentifier name.toList then .ok name else .error .strangeSlot
    | part => .error (.badSlot part.sort)

/-! ## Lineages -/

/-- The first class that is twice among the bases. -/
def repeated? : List Ancestor → Option Ancestor
  | [] => none
  | base :: rest => if rest.contains base then some base else repeated? rest

/-- The ancestors of a class with the given bases. -/
def ancestors (world : World) (bases : List Ancestor) : Except ClassFault (List Ancestor) :=
  match repeated? bases with
  | some base => .error (.repeatedBase (base.label world))
  | none =>
    (Lineage.ofBases (Ancestor.lineage world) bases).mapError fun heads =>
      .noOrder (heads.map (Ancestor.label world))

/-! ## Type parameters -/

/-- The parameters that a base declares in brackets. -/
def declared? : Form → Option (List TypeVariable)
  | .generic (.special .generic) arguments => some (Form.typeVariablesOf arguments)
  | _ => none

/-- A value in the place of the written bases of a class can be asked for what is in it. -/
def checkWritten (value : Form) : Except ClassFault Unit :=
  match Operation.holds .inside (.atom (.special .generic)) value with
  | .ok _ => .ok ()
  | .error fault => .error (.evaluation fault)

/-- The type parameters of a class whose ancestors declare some: those in the brackets of
its one declaration, which has to list all that the bases use, or else those that the
bases use. -/
def parameters (bases : List Form) : Except ClassFault (List TypeVariable) := do
  if bases.any (isLibrary .generic) then throw .plainGeneric
  if !bases.any isAsked then return []
  let used := Form.typeVariablesOf bases
  match bases.filterMap declared? with
  | [] => return used
  | [listed] =>
    let unlisted := used.filter fun v => v ∉ listed
    if unlisted.isEmpty then return listed
    throw (.unlistedVariables (unlisted.map fun v => "~" ++ v.name)
      (listed.map fun v => "~" ++ v.name))
  | _ => throw .repeatedGeneric

/-- The parameters of the bases of a class with their arguments. -/
def behind (world : World) (c : ClassRef) : Except String (List (TypeVariable × Form)) :=
  match world.record? c with
  | some record => world.baseArguments record
  | none => .ok []

/-- The parameters of a base with their arguments, and those of the bases behind it. -/
def argumentsOf (world : World) : Form → Except String (List (TypeVariable × Form))
  | .generic (.contract c) arguments => (behind world c).map (c.parameters.zip arguments ++ ·)
  | _ => .ok []

/-- The parameters of several bases with their arguments. -/
def allArguments (world : World) (bases : List Form) :
    Except String (List (TypeVariable × Form)) := do
  return (← bases.mapM (argumentsOf world)).flatten

/-! ## Offers -/

/-- A base says only what it offers, like the class derived from it. -/
def isOffer (world : World) (base : Ancestor) : Bool :=
  match base with
  | .library c => c.isOffer
  | .contract number => ((world.classes[number]?).map ClassRecord.isOffer).getD false

/-- A class that is to say only what it offers is derived from nothing else. -/
def checkOffer (world : World) (bases : List Ancestor) : Except ClassFault Unit :=
  match bases.find? fun base => !isOffer world base with
  | some base => .error (.noOffer (base.display world))
  | none => .ok ()

/-! ## Enumerations -/

/-- A value stands in a class for what makes its instances. -/
def hasMaker (record : ClassRecord) : Bool := (record.scope.find? Enumeration.makerName).isSome

/-- A class of the contracts makes or initialises its instances itself. -/
def hasInstances (record : ClassRecord) : Bool :=
  record.fields.isSome || hasMaker record || (record.scope.find? Enumeration.initialiserName).isSome

/-- The sort of value that a class stands for. -/
def valueSort (world : World) (c : Ancestor) : ValueSort :=
  let lineage := c.lineage world
  let has (library : LibraryClass) : Bool := lineage.contains (.library library)
  if (world.records lineage).any hasInstances then .object
  else if has .textEnumeration then .givenText
  else if has .number then .whole
  else if has .text then .text
  else if has (.builtin "float") then .real
  else if has .tuple then .tuple
  else .any

/-- The class that stands for the values of an enumeration, with its sort. -/
def memberClass? (world : World) (c : Ancestor) : Option (Ancestor × ValueSort) :=
  match c with
  | .contract number => do
    let members ← (← world.classes[number]?).enumeration
    return (← members.style.values, members.style.sort)
  | .library _ =>
    match valueSort world c with
    | .any => none
    | .whole => some (.library .number, .whole)
    | sort => some (.library .text, sort)

/-- A class makes its instances in a way of its own. -/
def makesInstances (world : World) : Ancestor → Bool
  | .contract number => (world.classes[number]?).any hasMaker
  | .library c =>
    match c.space with
    | "builtins" => c != .object
    | "datetime" | "decimal" | "collections" => true
    | "typing" => c = .typing "Any"
    | _ => false

/-- The class in a lineage that stands for the values of the members, with its sort. -/
def dataClass? (world : World) (candidate : Option Ancestor) :
    List Ancestor → Option (Ancestor × ValueSort)
  | [] => none
  | c :: rest =>
    if c = .library .object then dataClass? world candidate rest
    else if c.metaclass world = .enumeration then
      match memberClass? world c with
      | none => dataClass? world candidate rest
      | some found => some found
    else
      let found := candidate.getD c
      let isRecord := (c.record? world).any fun record => record.fields.isSome
      if isRecord || makesInstances world c then some (found, valueSort world found)
      else dataClass? world (some found) rest

/-- How an enumeration makes open values whose last base is the given one. -/
def openRule (world : World) (base : Ancestor) : OpenRule :=
  match (base.record? world).bind ClassRecord.enumeration with
  | some members => members.style.opening
  | none =>
    let lineage := base.lineage world
    if lineage.contains (.library .flags) then .flags
    else if lineage.contains (.library .textEnumeration) then .names
    else .counting

/-- The sort of the value that stands for what makes members: one that an enumeration hands
on to those derived from it, or else one in the class that stands for the values. -/
def placedMaker? (world : World) (lineage values : List Ancestor) : Option String :=
  lineage.findSome? (fun ancestor => do
    (← (← ancestor.record? world).enumeration).style.ownMaker) <|> do
  let maker ← values.find? (makesInstances world)
  let value ← (← maker.record? world).scope.find? Enumeration.makerName
  if value.same (.atom .none) then none else some value.sort

/-- How the members of an enumeration with the given bases are made. -/
def enumerationStyle (world : World) (name : String) (bases : List Ancestor) :
    Except ClassFault EnumerationStyle := do
  let lineages := bases.map (Ancestor.lineage world)
  let hasMembers (c : Ancestor) : Bool :=
    (c.record? world).any fun record => record.enumeration.any fun members =>
      !members.listed.isEmpty
  match lineages.flatten.find? hasMembers with
  | some c => throw (.extendsMembers name (c.display world))
  | none => pure ()
  let last := bases.getLast?.getD (.library .object)
  if last.metaclass world ≠ .enumeration then throw .noEnumeration
  let lineage := last.lineage world
  let found := lineages.filterMap (dataClass? world none)
  let values := Distinct.list (found.map Prod.fst)
  if 1 < values.length then throw (.manySorts name (values.map (Ancestor.display world)))
  let sort := match (found.head?.map Prod.snd).getD .any with
    | .text | .givenText =>
      if lineage.contains (.library .textEnumeration) then .givenText else .text
    | sort => sort
  return {
    opening := openRule world last
    sort := sort
    values := values.head?
    shape := lineages.findSome? world.shape?
    isFlags := lineages.flatten.contains (.library .flags)
    initialiser := lineages.findSome? world.initialiser?
    ownMaker := placedMaker? world lineage ((values.head?.map (Ancestor.lineage world)).getD []) }

end Bases

end TypeContracts
