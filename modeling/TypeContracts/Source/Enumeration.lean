import TypeContracts.Host.Basic
import TypeContracts.Source.Formation

/-!
# Enumerations of the contracts

What the members of an enumeration are. A member that leaves its value open gets the
value after the greatest one before it, or the next power of two in an enumeration of
flags. A member whose value is an earlier one is another name of the earlier member, and
a flag of several bits a combination of others; neither is listed.

The body of an enumeration can also hold names that are no members: private names, names
between two underscores, and the reserved names between single underscores, some of which
rule over the members.
-/

set_option autoImplicit false

namespace TypeContracts

/-- What the values of an enumeration are made into. -/
inductive ValueSort where
  | any
  | whole
  | text
  | givenText
  | real
  | tuple
  | object
deriving DecidableEq, Repr

/-- How the values of open members are made: by counting, as flags of one bit, or from the
names of the members. A value in the place of the rule is told by its sort. -/
inductive OpenRule where
  | counting
  | flags
  | names
  | value (sort : String)
deriving DecidableEq, Repr

/-- How an enumeration makes its members: how open values are made, what values are made
into, with the class that stands for such values, whether they are flags, and what
initialises an instance of the classes that it is derived from. Values that the enumeration
itself puts in the place of what makes and what initialises members are told by their
sorts. -/
structure EnumerationStyle where
  opening : OpenRule := .counting
  sort : ValueSort := .any
  values : Option Ancestor := none
  shape : Option InstanceShape := none
  isFlags : Bool := false
  initialiser : Option Initialiser := none
  ownMaker : Option String := none
  ownInitialiser : Option String := none
deriving Repr

/-- The value that is written for a member, if there is one. -/
inductive MemberValue where
  | given (value : EnumValue)
  | automatic
deriving Repr, Inhabited

/-- Why members do not make an enumeration. -/
inductive EnumerationFault where
  | repeated (name value : String)
  | reserved (name : String)
  | invalidNames (names : List String)
  | invalidFlag (value : String)
  | lateRule
  | ignoredMembers (names : List String)
  | wrongOrder (members order : String)
  | noValue
  | formation (fault : AnnotationFault)
deriving DecidableEq, Repr

namespace EnumerationFault

/-- The report of a fault. -/
def message : EnumerationFault → String
  | .repeated name value => Text.quoted name ++ " already defined as " ++ value
  | .reserved name =>
    "_sunder_ names, such as " ++ Text.quoted name ++ ", are reserved for future Enum use"
  | .invalidNames names =>
    "invalid enum member name(s) " ++ Text.join "," (names.map Text.quoted)
  | .invalidFlag value => "invalid flag value " ++ value
  | .lateRule => "_generate_next_value_ must be defined before members"
  | .ignoredMembers names =>
    "_ignore_ cannot specify already set names: " ++
      Expression.groupText .set (names.map Text.quoted)
  | .wrongOrder members order =>
    "member order does not match _order_:\n  " ++ members ++ "\n  " ++ order
  | .noValue => "_value_ not set in __new__, unable to create it"
  | .formation fault => fault.message

/-- The kind of exception that a fault is raised as. -/
def kind : EnumerationFault → String
  | .reserved _ | .invalidNames _ | .ignoredMembers _ => "ValueError"
  | .formation fault => fault.kind
  | _ => "TypeError"

end EnumerationFault

/-- The members of an enumeration: those it lists, and all names of members with the
member that each stands for. -/
structure EnumerationMembers where
  style : EnumerationStyle := {}
  listed : List EnumMember := []
  named : List (String × EnumMember) := []
deriving Inhabited

namespace Enumeration

/-- A result, or why members do not make an enumeration. -/
abbrev Counted (α : Type) := Except EnumerationFault α

/-- A rule of forms that was broken by a member. -/
def broken {α : Type} (fault : AnnotationFault) : Counted α := .error (.formation fault)

/-! ## Open values -/

/-- The value one above a number. -/
def above? (value : EnumValue) : Option EnumValue := value.plus? (.integer 1)

/-- The value of an open member after the given ones: one above the last value if that is
the greatest one, or else one above the first of the values, sorted as far as they can be,
that is a number. -/
def following (earlier : List EnumValue) : EnumValue :=
  let (isSorted, sorted) := Order.sorted earlier
  let next? := do
    let last ← earlier.getLast?
    if isSorted && sorted.getLast?.any last.same then above? last else none
  ((next? <|> sorted.findSome? above?).getD (.integer 1))

/-- The number of binary digits of a whole number. -/
def bits (n : Int) : Nat := if n = 0 then 0 else n.natAbs.log2 + 1

/-- The report on a value that is no flag. The parts of a tuple take the places of a message
with one place. -/
def refusedFlag : EnumValue → EnumerationFault
  | .tuple [] => .formation .fewInserted
  | .tuple [part] => .invalidFlag part.spelling
  | .tuple _ => .formation .manyInserted
  | value => .invalidFlag value.spelling

/-- The flag of an open member after the given ones: the next power of two. -/
def followingFlag : List EnumValue → Counted EnumValue
  | [] => .ok (.integer 1)
  | first :: rest =>
    match Order.greatest first rest with
    | .error (left, right) => broken (.noOrder ">" left right)
    | .ok greatest =>
      match greatest.whole? with
      | some n => .ok (.integer (Nat.pow 2 (bits n)))
      | none => .error (refusedFlag greatest)

/-- The value of an open member with a name, after the given ones. -/
def automatic (rule : OpenRule) (name : String) (earlier : List EnumValue) : Counted EnumValue :=
  match rule with
  | .counting => .ok (following earlier)
  | .flags => followingFlag earlier
  | .names => .ok (.text (Text.lower name))
  | .value sort => broken (.notCallable sort)

/-! ## Names -/

/-- The name is private to a class. -/
def isPrivate (className name : String) : Bool :=
  match Text.dropStart? ("_" ++ className ++ "__") name with
  | none => false
  | some rest => !rest.isEmpty && !Text.endsWith "__" name

/-- The name has one underscore at either end. -/
def isReserved (name : String) : Bool :=
  2 < name.length && Text.startsWith "_" name && Text.endsWith "_" name &&
    !Text.startsWith "__" name && !Text.endsWith "__" name

/-- The name has two underscores at either end. -/
def isOwn (name : String) : Bool :=
  4 < name.length && Text.startsWith "__" name && Text.endsWith "__" name &&
    !Text.startsWith "___" name && !Text.endsWith "___" name

/-- The name under which members are told to be left out. -/
def ignoringName : String := "_ignore_"

/-- The name under which open values are ruled. -/
def rulingName : String := "_generate_next_value_"

/-- The name under which the order of the members is told. -/
def orderName : String := "_order_"

/-- The name under which a class keeps what makes its instances. -/
def makerName : String := "__new__"

/-- The name under which a class keeps what initialises its instances. -/
def initialiserName : String := "__init__"

/-- The reserved names that can be assigned. -/
def allowedNames : List String :=
  [orderName, rulingName, ignoringName, "_numeric_repr_", "_missing_", "_iter_member_",
    "_iter_member_by_value_", "_iter_member_by_def_"]

/-! ## Bodies -/

/-- What the body of an enumeration has defined so far. -/
structure Body where
  members : List EnumMember := []
  others : List (String × EnumValue) := []
  ignored : List String := []
  rule : Option OpenRule := none
  usedOpen : Bool := false

/-- The names that a text lists between blanks or commas. -/
def namesIn (text : String) : List String :=
  ((Text.pieces ' ' (text.toList.map fun c => if c = ',' || Text.isBlank c then ' ' else c)).map
    String.ofList).filter (· ≠ "")

/-- The names that a value lists: those of a text, or the texts among its parts. -/
def listedNames (value : EnumValue) : Counted (List String) :=
  match value with
  | .text text => .ok (namesIn text)
  | value =>
    match Coercion.parts value with
    | .ok parts => .ok (parts.filterMap fun part => match part with | .text t => some t | _ => none)
    | .error fault => broken (.uncoercible fault)

/-- The body with a name that is no member. -/
def Body.withOther (body : Body) (name : String) (value : EnumValue) : Body :=
  { body with others := body.others.filter (·.1 ≠ name) ++ [(name, value)] }

/-- The body after a reserved name was assigned. -/
def Body.withReserved (body : Body) (name : String) (value : EnumValue) : Counted Body := do
  if !allowedNames.contains name then throw (.reserved name)
  if name = rulingName then
    if body.usedOpen then throw .lateRule
    return { body.withOther name value with rule := some (.value value.sort) }
  if name = ignoringName then
    let ignored ← listedNames value
    let taken := ignored.filter fun name => body.members.any (·.name = name)
    if !taken.isEmpty then throw (.ignoredMembers (Distinct.list taken))
    return { body with ignored := ignored }
  return body.withOther name value

/-- What stands for an open value where it makes no member. -/
def openMark : EnumValue := .symbol "auto" "auto()"

/-- The body after a name was assigned. -/
def Body.assign (style : EnumerationStyle) (className : String) (body : Body)
    (name : String) (written : MemberValue) : Counted Body := do
  let value := match written with
    | .given value => value
    | .automatic => openMark
  if isPrivate className name then return body.withOther name value
  if isReserved name then return ← body.withReserved name value
  if isOwn name then return body.withOther (if name = "__order__" then orderName else name) value
  match body.members.find? (·.name = name) with
  | some member => throw (.repeated name member.value.spelling)
  | none =>
    if body.ignored.contains name then return body
    match written with
    | .given value => return { body with members := body.members ++ [⟨name, value⟩] }
    | .automatic =>
      let rule := body.rule.getD style.opening
      let value ← automatic rule name (body.members.map EnumMember.value)
      return { body with members := body.members ++ [⟨name, value⟩], usedOpen := true }

/-- The body that assignments make. -/
def bodyOf (style : EnumerationStyle) (className : String)
    (written : List (String × MemberValue)) : Counted Body := do
  let body ← written.foldlM
    (fun body (name, value) => Body.assign style className body name value) ({} : Body)
  return { body with others := body.others.filter fun (name, _) => !body.ignored.contains name }

/-! ## Members -/

/-- The values that a value hands over where another is made from it. -/
def handedOver : EnumValue → List EnumValue
  | .tuple parts => parts
  | value => [value]

/-- The instance that values make, where they make one. -/
def instanceOf (style : EnumerationStyle) (values : List EnumValue) : Counted EnumValue :=
  match style.initialiser.bind (·.fault? values.length), style.shape with
  | none, some shape => .ok (.symbol shape.owner (shape.text (EnumValue.spellings values)))
  | _, _ => .error .noValue

/-- A value made into what the enumeration holds. -/
def converted (style : EnumerationStyle) (value : EnumValue) : Counted EnumValue :=
  let coerced (made : Coercion.Made) : Counted EnumValue :=
    made.mapError fun fault => .formation (.uncoercible fault)
  match style.sort with
  | .any => .ok value
  | .whole => coerced (Coercion.toWhole (handedOver value))
  | .text => coerced (Coercion.toText (handedOver value))
  | .givenText => coerced (Coercion.onlyText (handedOver value))
  | .real => coerced (Coercion.toReal (handedOver value))
  | .tuple => .ok (.tuple (handedOver value))
  | .object => instanceOf style (handedOver value)

/-- The value is a flag of one bit. -/
def isSingleBit (value : EnumValue) : Counted Bool :=
  if value.same (.integer 0) then .ok false
  else
    match value, value.whole? with
    | _, some n => .ok (0 < n && n = Nat.pow 2 (bits n - 1))
    | .real _, none => broken (.noOperation "&=" "float" "float")
    | value, none => broken (.noOperation "-" value.sort "int")

/-- The members with one more. A value that is there makes another name of its member, and
only flags of one bit are listed among flags. -/
def withMember (known : EnumerationMembers) (member : EnumMember) : Counted EnumerationMembers := do
  match known.style.ownMaker with
  | some sort => broken (.notCallable sort)
  | none => pure ()
  let value ← converted known.style member.value
  let initialiser := (known.style.ownInitialiser.map .value) <|> known.style.initialiser
  match initialiser.bind (·.fault? (handedOver member.value).length) with
  | some fault => broken fault
  | none => pure ()
  match known.named.find? fun (_, other) => other.value.same value with
  | some (_, other) => return { known with named := known.named ++ [(member.name, other)] }
  | none =>
    let made : EnumMember := ⟨member.name, value⟩
    let isListed ← if known.style.isFlags then isSingleBit value else pure true
    return { known with
      listed := if isListed then known.listed ++ [made] else known.listed
      named := known.named ++ [(member.name, made)] }

/-- The values of flags can be put together. -/
def checkFlags (members : EnumerationMembers) : Counted Unit :=
  if members.style.isFlags && members.named.any fun (_, member) => member.value.whole?.isNone then
    broken (.noOperation "|=" "int" "float")
  else .ok ()

/-- The order of the members that is told, as values. -/
def toldOrder (told : EnumValue) : Counted (List EnumValue) :=
  match told with
  | .text text => .ok ((namesIn text).map .text)
  | told =>
    if !told.isTrue then .ok []
    else (Coercion.parts told).mapError fun fault => .formation (.uncoercible fault)

/-- The order that is told is the order of the members. Names of flags of several bits and
further names of members do not count. -/
def checkOrder (members : EnumerationMembers) (told : EnumValue) : Counted Unit := do
  let names := members.listed.map EnumMember.name
  let counts (value : EnumValue) : Bool :=
    match value with
    | .text name => (members.named.lookup name).isNone || names.contains name
    | _ => true
  let told ← toldOrder told
  if told.isEmpty then return ()
  let order := told.filter counts
  if EnumValue.sameAll order (names.map .text) then return ()
  throw (.wrongOrder (Expression.groupText .list (names.map Text.quoted))
    (Expression.groupText .list (EnumValue.spellings order)))

/-- The style of an enumeration whose body puts values in the place of what makes and what
initialises members. -/
def styleIn (style : EnumerationStyle) (body : Body) : EnumerationStyle :=
  let made := (body.others.lookup makerName).filter fun value => !value.same .absent
  { style with
    opening := body.rule.getD style.opening
    ownMaker := (made.map EnumValue.sort) <|> style.ownMaker
    ownInitialiser := (body.others.lookup initialiserName).map EnumValue.sort }

/-- The members that a body makes. -/
def membersOf (style : EnumerationStyle) (body : Body) : Counted EnumerationMembers :=
  body.members.foldlM withMember { style := styleIn style body }

/-- The members that a body has made can be put together, and have the order that the body
tells. -/
def checkMembers (members : EnumerationMembers) (body : Body) : Counted Unit := do
  checkFlags members
  match body.others.lookup orderName with
  | some told => checkOrder members told
  | none => pure ()

/-- The names that no member may have. -/
def checkNames (body : Body) : Counted Unit :=
  if body.members.any (·.name = "mro") then .error (.invalidNames ["mro"]) else .ok ()

/-- The member with a value. The flags of several bits are put together where they are
asked for. -/
def memberOf? (members : EnumerationMembers) (value : EnumValue) : Option EnumMember :=
  match members.named.find? fun (_, member) => member.value.same value with
  | some (_, member) => some member
  | none =>
    match members.style.isFlags, value.whole? with
    | true, some n =>
      let holds (member : EnumMember) : Bool :=
        match member.value.whole? with
        | some bit => 0 < n && (n / bit) % 2 = 1
        | none => false
      let parts := members.listed.filter holds
      let total := parts.foldl (fun total part => total + (part.value.whole?).getD 0) 0
      if total = n && 0 < n then
        some ⟨Text.join "|" (parts.map EnumMember.name), .integer n⟩
      else none
    | _, _ => none

end Enumeration

end TypeContracts
