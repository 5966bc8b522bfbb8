import TypeContracts.Source.Module

/-!
# Defining classes

From a class as it is written to its record. The bases are evaluated first, then the body
is executed, and only then the class is made: its storage, its lineage, its members, its
type parameters and its fields follow each other, and the first rule that is broken decides.
Names of a class body that start with two underscores carry the name of their class.
-/

set_option autoImplicit false

namespace TypeContracts

/-- A step of executing modules. A step that fails keeps what was defined before. -/
abbrev Loading := ExceptT SourceFault (StateM World)

namespace Definition

/-- A rule for classes. -/
abbrev Rule (α : Type) := Except ClassFault α

/-- The result of a rule for classes as a step. -/
def settled {α : Type} (result : Rule α) : Loading α :=
  ExceptT.mk (pure (result.mapError .definition))

/-- The result of evaluating annotations as a step. -/
def formed {α : Type} (result : Except AnnotationFault α) : Loading α :=
  settled (result.mapError .evaluation)

/-- The name that a class body gives to what is defined in it. -/
def ownName (className name : String) : String :=
  let stem := String.ofList (className.toList.dropWhile (· = '_'))
  if Text.startsWith "__" name && !Text.endsWith "__" name && !stem.isEmpty then
    "_" ++ stem ++ name
  else name

/-! ## Surroundings -/

/-- Where a class is defined: the module, whether its annotations are kept as strings, and
the path, the name and the scope of the class around it. -/
structure Surroundings where
  space : String
  isDeferred : Bool
  path : String := ""
  around : String := ""
  scope : Scope := []

/-- The name under which something is known in its surroundings. -/
def Surroundings.known (surroundings : Surroundings) (name : String) : String :=
  ownName surroundings.around (Text.normal name)

/-- What an annotation in the surroundings stands for. -/
def Surroundings.evaluate (surroundings : Surroundings) (expression : Expression) :
    Loading Form := do
  let world ← get
  formed (world.evaluate (.inBody surroundings.scope (world.moduleScope surroundings.space))
    (expression.mapNames surroundings.known))

/-! ## Fields -/

/-- The kind of field that a form makes. -/
def formKind : Form → FieldKind
  | .atom (.special .classVariable) => .classVariable
  | .generic (.special .classVariable) _ => .classVariable
  | .atom (.special .initVariable) => .initVariable
  | .initVariable _ => .initVariable
  | _ => .plain

/-- The word at the start of characters, behind white space, and what is behind it. -/
def leadingWord? (cs : List Char) : Option (String × List Char) :=
  let body := Text.trimLeft cs
  let word := body.takeWhile Expression.isNameChar
  if word.isEmpty then none else some (String.ofList word, body.drop word.length)

/-- The space and the name that a text starts with. -/
def leadingNames? (text : String) : Option (Option String × String) := do
  let (first, rest) ← leadingWord? text.toList
  match Text.trimLeft rest with
  | '.' :: behind =>
    match leadingWord? behind with
    | some (second, _) => return (some first, second)
    | none => return (none, first)
  | _ => return (none, first)

/-- What the name in front of a text stands for: a name of the module, or one of a space that
marks fields. A module that was not loaded has no names to ask for. -/
def leadingForm? (names : Option Lookup) (text space : String) : Rule (Option Form) :=
  match leadingNames? text, names with
  | none, _ => .ok none
  | some (none, name), some names => .ok (names name)
  | some (none, _), none => .error (.evaluation (.noAttribute "'NoneType' object" "__dict__"))
  | some (some owner, name), names =>
    match names.bind fun names => names owner with
    | some (.atom (.space named)) =>
      .ok (if named = space then Lookup.inLibrary space name else none)
    | _ => .ok none

/-- The kind of field that a text makes. Only the name in front counts. -/
def textKind (names : Option Lookup) (text : String) : Rule FieldKind := do
  let marked (kind : FieldKind) (space : String) : Rule Bool := do
    return ((← leadingForm? names text space).map formKind) = some kind
  if ← marked .classVariable "typing" then return .classVariable
  if ← marked .initVariable "dataclasses" then return .initVariable
  return .plain

/-- The kind of field that an annotation makes. -/
def fieldKind (names : Option Lookup) : Form → Rule FieldKind
  | .atom (.scalar (.text text)) => textKind names text
  | form => .ok (formKind form)

/-- Fields with one more, which takes the place of a field of its name. -/
def addField (fields : List RecordField) (field : RecordField) : List RecordField :=
  if fields.any (·.name = field.name) then
    fields.map fun known => if known.name = field.name then field else known
  else fields ++ [field]

/-- What is kept for the names that a class body tells to be those of its instances. -/
def slotForm (name : String) : Form := .atom (.object "member_descriptor" name)

/-- What an annotated field starts out with: what the class or an ancestor has under its
name. A name that is told for instances only starts out with nothing. The answer is the
name of the sort of what cannot be shared between instances, if it is such. -/
def default? (world : World) (record : ClassRecord) (name : String) : Option (Option String) :=
  match record.scope.find? name <|> world.attribute? record.lineage name with
  | some (.atom (.object "member_descriptor" _)) => none
  | some (.group .tuple _) => some none
  | some (.group grouping _) => some (some grouping.sort)
  | some _ => some none
  | none =>
    if World.isOffered record.lineage name || record.ref.metaclass.attributes.contains name then
      some (LibraryClass.sharedSort? name)
    else none

/-- The fields that a class inherits from record classes, the farthest ancestor first. -/
def inheritedFields (world : World) (record : ClassRecord) : Rule (List RecordField) :=
  (world.records (record.lineage.drop 1)).reverse.foldlM (fun fields ancestor =>
    match world.recordFields? ancestor with
    | none => .ok fields
    | some (.ok known) => .ok (known.foldl addField fields)
    | some (.error sort) =>
      .error (.evaluation (.noAttribute ("'" ++ sort ++ "' object") "values"))) []

/-- The fields of a record class: those of its ancestors and its own. -/
def recordFields (world : World) (record : ClassRecord) : Rule (List RecordField) := do
  let inherited ← inheritedFields world record
  match record.annotations with
  | .other value => throw (.evaluation (.noAttribute ("'" ++ value.sort ++ "' object") "items"))
  | .fields annotations =>
    let names := world.moduleNames? record.ref.space
    annotations.foldlM (fun fields (name, form) => do
      let kind ← fieldKind names form
      let default := default? world record name
      match kind, default with
      | .plain, some (some sort) => throw (.sharedDefault sort name)
      | _, _ => return addField fields ⟨name, kind, default.isSome⟩) inherited

/-- The first field without a default behind a field with one. -/
def misplaced? (fields : List RecordField) : Option String :=
  let given := fields.filter (·.kind != .classVariable)
  ((given.dropWhile (!·.hasDefault)).find? (!·.hasDefault)).map RecordField.name

/-! ## The body of a class -/

/-- What a class body has defined so far. `written` holds what is assigned in it as values,
with what the assigned names stand for. -/
structure Body where
  annotations : Scope := []
  written : List (String × MemberValue) := []
  scope : Scope := []

/-- The form that an assigned value has. -/
def valueForm : MemberValue → Form
  | .given value => Form.ofValue value
  | .automatic => Form.ofValue Enumeration.openMark

/-- The body after an assignment. -/
def Body.assign (body : Body) (name : String) (value : MemberValue) (form : Form) : Body :=
  { body with written := body.written ++ [(name, value)], scope := body.scope.assign name form }

/-- The names that a body has taken, whatever becomes of them. -/
def Body.takenNames (body : Body) : List String :=
  "__module__" :: (if body.annotations.isEmpty then [] else [annotationsName]) ++
    (body.scope.map Prod.fst).filter (· ≠ "__qualname__")

/-- A form as a value of a member. -/
def memberValue (form : Form) : MemberValue := .given (.symbol form.sort form.display)

/-- The annotation of a field. -/
def fieldForm (surroundings : Surroundings) (expression : Expression) : Loading Form :=
  if surroundings.isDeferred then pure (Form.ofValue (.text expression.canonical))
  else surroundings.evaluate expression

/-- The body with the annotations of its fields. -/
def annotate (surroundings : Surroundings) (body : Body) (fields : List (String × Expression)) :
    Loading Body :=
  fields.foldlM (fun body (name, expression) => do
    let form ← fieldForm { surroundings with scope := body.scope } expression
    return { body with annotations := body.annotations.assign (surroundings.known name) form })
    body

/-- How the members of a class are made, if its maker makes enumerations. -/
def styleOf? (world : World) (name : String) (bases : List Bases.Base) :
    Rule (Option EnumerationStyle) :=
  match Bases.maker world bases with
  | .error fault => .error fault
  | .ok (.metaclass .enumeration) =>
    (Bases.enumerationStyle world name (Bases.classes bases)).map some
  | .ok (.metaclass _) => .ok none
  | .ok (.sort _) =>
    match bases.findSome? Bases.memberOf? with
    | some owner =>
      .error (.evaluation (.noAttribute ("'" ++ owner.name ++ "' object") "__mro__"))
    | none => .ok none

/-- The members that a body counts, if it is the body of an enumeration. -/
def counted (style : Option EnumerationStyle) (name : String) (body : Body) :
    Rule (Option Enumeration.Body) :=
  style.mapM fun style => (Enumeration.bodyOf style name body.written).mapError .enumeration

/-! ## Making a class -/

/-- What a body assigns without making it a member. -/
def assignedScope (body : Body) (counted : Option Enumeration.Body) : Scope :=
  match counted with
  | none => body.scope
  | some counted =>
    body.scope.filter fun (name, _) => counted.others.any (·.1 = name)

/-- The text that is assigned under a name in the place of a text that is known. -/
def told (assigned : Scope) (name known : String) : String :=
  ((assigned.find? name).map Form.shown).getD known

/-- The scope with the names that a class body tells to be those of its instances. -/
def withSlots (world : World) (name : String) (best : Ancestor) (taken : List String)
    (assigned : Scope) : Rule (Scope × Bool) :=
  match assigned.find? "__slots__" with
  | none => .ok (assigned, false)
  | some value => do
    let names := (← Bases.slotNames world best value).map (ownName name)
    match names.find? taken.contains with
    | some name => throw (.takenSlot name)
    | none => return (names.foldl (fun scope name => scope.assign name (slotForm name)) assigned,
        !names.isEmpty)

/-- A class of the library that is the only one of some others to keep its instances in a way
that the first class derived from it changes. -/
def changesStorage (best : Ancestor) (assigned : Scope) : Bool :=
  match best with
  | .library c => c.isVariable && (assigned.find? "__slots__").isNone
  | .contract _ => false

/-- A value in the place of the path of a class is a text. -/
def checkPath (scope : Scope) : Rule Unit :=
  match scope.find? "__qualname__" with
  | none | some (.atom (.scalar (.text _))) => .ok ()
  | some value => .error (.badPath value.sort)

/-- The class that a body and bases make, before its members and fields. -/
def frameOf (world : World) (surroundings : Surroundings) (name path : String)
    (metaclass : Metaclass) (bases : List Ancestor) (taken : List String) (assigned : Scope)
    (annotations : Scope) : Rule ClassRecord := do
  let best ← Bases.bestBase world bases
  let (scope, hasSlots) ← withSlots world name best taken assigned
  checkPath scope
  let ancestors ← Bases.ancestors world bases
  let number := world.classes.size
  let own : Ancestor := .contract number
  return {
    ref := {
      number := number
      space := told scope "__module__" surroundings.space
      path := told scope "__qualname__" path
      name := name
      metaclass := metaclass
      isFlags := ancestors.contains (.library .flags)
      parameters := [] }
    bases := bases
    lineage := own :: ancestors
    storage := if hasSlots || changesStorage best assigned then own else best.storage world
    annotations := ((scope.find? annotationsName).map Annotations.other).getD (.fields annotations)
    scope := scope }

/-- The class with its members. -/
def withMembers (record : ClassRecord) (style : Option EnumerationStyle)
    (counted : Option Enumeration.Body) : Rule ClassRecord :=
  match style, counted with
  | some style, some counted => do
    let members ← (Enumeration.membersOf style counted).mapError .enumeration
    let scope := members.named.foldl (fun scope (name, member) =>
      scope.assign name (World.memberForm record.ref members member)) record.scope
    return { record with
      enumeration := some members
      scope := scope.erase Enumeration.orderName }
  | _, _ => .ok record

/-- The bases that a class keeps as they are written, where one of them is asked for the classes
it stands for, or a value in their place. -/
def writtenOf (bases : List Form) (scope : Scope) : Option (Except String (List Form)) :=
  if bases.any Bases.isAsked then some (.ok bases)
  else
    (scope.find? basesName).map fun value =>
      match Coercion.parts value.value with
      | .ok _ => .ok []
      | .error _ => .error value.sort

/-- The type parameters of a generic class. A value in the place of its written bases counts
where none of them is asked for the classes it stands for. -/
def parametersOf (bases : List Form) (scope : Scope) : Rule (List TypeVariable) := do
  match bases.any Bases.isAsked, scope.find? basesName with
  | false, some value =>
    Bases.checkWritten value
    return []
  | _, _ => Bases.parameters bases

/-- Classes can be derived from the ancestors of a class. -/
def checkDerived (world : World) (record : ClassRecord) : Rule Unit :=
  match world.attribute? (record.lineage.drop 1) derivationName with
  | some value => .error (.spoiled value.sort)
  | none =>
    if record.lineage.contains (.library (.typing "Annotated")) then
      .error (.sealed record.ref.space)
    else .ok ()

/-- The type parameters of a class, which a class without generic ancestors has none of. -/
def ownParameters (record : ClassRecord) (bases : List Form) : Rule (List TypeVariable) :=
  if record.lineage.contains .generic then parametersOf bases record.scope else .ok []

/-- A class is to say only what it offers. -/
def saysOffer (record : ClassRecord) : Bool :=
  record.lineage.contains .protocol &&
    (record.bases.contains .protocol || (record.scope.find? "_is_protocol").any Form.isTrue)

/-- A class that is to say only what it offers can do so. -/
def checkOffer (world : World) (record : ClassRecord) : Rule Unit :=
  if saysOffer record then Bases.checkOffer world record.bases else .ok ()

/-- The class with its type parameters, and with what its ancestors ask of it. -/
def withParameters (world : World) (record : ClassRecord) (bases : List Form) :
    Rule ClassRecord := do
  checkDerived world record
  let parameters ← ownParameters record bases
  checkOffer world record
  return { record with
    ref := { record.ref with parameters := parameters }
    scope :=
      if record.lineage.contains .generic then record.scope.erase parametersName else record.scope
    written := writtenOf bases record.scope
    argued := (writtenOf bases record.scope).map fun written =>
      written >>= Bases.allArguments world
    isOffer := saysOffer record }

/-- The class with the fields of a record class, if it is made one. -/
def withFields (world : World) (record : ClassRecord) (isRecord : Bool) : Rule ClassRecord :=
  if isRecord then do
    let fields ← recordFields world record
    match misplaced? fields with
    | some field => throw (.defaultBefore field)
    | none => return { record with fields := some fields }
  else .ok record

/-- The names of counted members can be those of members. -/
def checkCounted (counted : Option Enumeration.Body) : Rule Unit :=
  match counted with
  | some counted => (Enumeration.checkNames counted).mapError .enumeration
  | none => .ok ()

/-- The members of a class are as they are counted. -/
def checkMembers (record : ClassRecord) (counted : Option Enumeration.Body) : Rule Unit :=
  match record.enumeration, counted with
  | some members, some counted => (Enumeration.checkMembers members counted).mapError .enumeration
  | _, _ => .ok ()

/-- The class of a class with the given bases, which are no other values. -/
def metaclassOf (world : World) (bases : List Form) (resolved : List Bases.Base) :
    Rule Metaclass := do
  match ← Bases.maker world resolved with
  | .sort sort => throw (.noClass sort (Form.group .tuple bases).display)
  | .metaclass metaclass => return metaclass

/-- The classes that a class is derived from: those among its bases, or else the root of all
classes. -/
def basesOf (resolved : List Bases.Base) : List Ancestor :=
  if (Bases.classes resolved).isEmpty then [.library .object] else Bases.classes resolved

/-- The class that a body and bases make. -/
def recordOf (world : World) (surroundings : Surroundings) (name path : String)
    (bases : List Form) (resolved : List Bases.Base) (style : Option EnumerationStyle)
    (body : Body) : Rule ClassRecord := do
  let counted ← counted style name body
  checkCounted counted
  let metaclass ← metaclassOf world bases resolved
  let frame ← frameOf world surroundings name path metaclass (basesOf resolved)
    body.takenNames (assignedScope body counted) body.annotations
  let record ← withParameters world (← withMembers frame style counted) bases
  checkMembers record counted
  return record

/-- A class added to those that were defined so far. -/
def addClass (record : ClassRecord) (isRecord : Bool) : Loading Form := do
  let world ← get
  let known := { world with classes := world.classes.push record }
  let record ← settled (withFields known record isRecord)
  set { world with classes := world.classes.push record }
  return .atom (.contract record.ref)

mutual

/-- Defines a class with all classes nested in it. -/
def define (surroundings : Surroundings) : ClassSource → Loading Form
  | ⟨written, mark, bases, fields, members, nested⟩ => do
    discard (mark.mapM surroundings.evaluate)
    let name := Text.normal written
    let forms ← bases.mapM surroundings.evaluate
    let resolved ← settled (Bases.resolved (← get) [] forms)
    let style ← settled (styleOf? (← get) name resolved)
    let path := if surroundings.path.isEmpty then name else surroundings.path ++ "." ++ name
    let inner := { surroundings with path := path, around := name, scope := [] }
    let body ← defineNested inner {} nested
    discard (settled (counted style name body))
    let body ← annotate inner body fields
    let body := members.foldl (fun body (member, value) =>
      body.assign (inner.known member) value (valueForm value)) body
    let record ← settled (recordOf (← get) surroundings name path forms resolved style body)
    addClass record mark.isSome

/-- Defines the classes that are nested in a class. -/
def defineNested (surroundings : Surroundings) (body : Body) : List ClassSource → Loading Body
  | [] => pure body
  | source :: rest => do
    let form ← define { surroundings with scope := body.scope } source
    defineNested surroundings
      (body.assign (surroundings.known source.name) (memberValue form) form) rest

end

end Definition

end TypeContracts
