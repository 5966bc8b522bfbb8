import TypeContracts.Source.Coercion
import TypeContracts.Source.Form
import TypeContracts.Source.Reading

/-!
# Formation of type forms

The rules by which forms are put together: what may stand where a type is expected, how
unions are flattened and freed of repetitions, and what a typing name makes of the
arguments in its brackets. Each way of breaking a rule is a cause of its own.
-/

set_option autoImplicit false

namespace TypeContracts

/-! ## Faults -/

/-- Why an operator has no result for numbers. -/
inductive ArithmeticFault where
  | negativeShift
  | zeroDivisor (operator : Operator) (areWhole : Bool)
  | zeroPower
  | tooGreat
  | beyondReals
deriving DecidableEq, Repr

namespace ArithmeticFault

/-- The report of a fault. -/
def message : ArithmeticFault → String
  | .negativeShift => "negative shift count"
  | .zeroDivisor .divideDown true => "integer division or modulo by zero"
  | .zeroDivisor .remainder true => "integer modulo by zero"
  | .zeroDivisor _ true => "division by zero"
  | .zeroDivisor .divideDown false => "float floor division by zero"
  | .zeroDivisor .remainder false => "float modulo"
  | .zeroDivisor _ false => "float division by zero"
  | .zeroPower => "0.0 cannot be raised to a negative power"
  | .tooGreat => ""
  | .beyondReals => "(34, 'Numerical result out of range')"

/-- The kind of exception that a fault is raised as. -/
def kind : ArithmeticFault → String
  | .negativeShift => "ValueError"
  | .zeroDivisor .. | .zeroPower => "ZeroDivisionError"
  | .tooGreat => "MemoryError"
  | .beyondReals => "OverflowError"

end ArithmeticFault

/-- Why an annotation has no form. -/
inductive AnnotationFault where
  | unknownName (name : String)
  | noAttribute (owner name : String)
  | noMember (name : String)
  | noKey (key : String)
  | noEntry (name : String)
  | notAnExpression (text : String)
  | outOfRange (sort : String)
  | notSubscriptable (owner : String)
  | badIndex (sort index : String)
  | notGeneric (owner : String)
  | argumentCount (owner : String) (actual expected : Nat)
  | invalidArgument (argument : String)
  | plainArgument (argument : String)
  | notTypes (rule : String) (arguments : String)
  | emptyUnion
  | fewNotes
  | callShape
  | callArguments (argument : String)
  | emptyParameters (owner : String)
  | notVariables (owner : String)
  | repeatedVariable (owner : String)
  | appliedTwice (owner : String)
  | unhashable (sort : String)
  | noOperation (operator left right : String)
  | noTurn (turn sort : String)
  | noOrder (comparison left right : String)
  | noContainer (sort : String)
  | noLength (sort : String)
  | arithmetic (fault : ArithmeticFault)
  | noJoint (left right : String)
  | noCount (sort : String)
  | noPartOfText (sort : String)
  | noStarred (sort : String)
  | fewInserted
  | manyInserted
  | notCallable (sort : String)
  | notMade (target : String)
  | onlyAlias (name origin : String)
  | notInstantiated (name : String)
  | onlyOffer
  | missingArguments (owner : String) (names : List String)
  | extraArguments (owner : String) (least most given : Nat)
  | noArguments (owner : String)
  | notMember (value owner : String)
  | uncoercible (fault : CoercionFault)
  | unread
deriving DecidableEq, Repr

namespace AnnotationFault

/-- Names in quotes, the last one behind a word. -/
def listed (names : List String) : String :=
  match names.map Text.quoted with
  | [] => ""
  | [one] => one
  | [first, second] => first ++ " and " ++ second
  | several => Text.join ", " several.dropLast ++ ", and " ++ several.getLast?.getD ""

/-- The report of a fault. -/
def message : AnnotationFault → String
  | .unknownName name => "name '" ++ name ++ "' is not defined"
  | .noAttribute owner name => owner ++ " has no attribute '" ++ name ++ "'"
  | .noMember name => name
  | .noKey key => key
  | .noEntry name => name
  | .notAnExpression text =>
    "Forward reference must be an expression -- got " ++ Text.quoted text
  | .outOfRange sort => sort ++ " index out of range"
  | .notSubscriptable owner => owner ++ " is not subscriptable"
  | .badIndex sort index =>
    if sort = "str" then "string indices must be integers, not '" ++ index ++ "'"
    else sort ++ " indices must be integers or slices, not " ++ index
  | .notGeneric owner => owner ++ " is not a generic class"
  | .argumentCount owner actual expected =>
    "Too " ++ (if expected < actual then "many" else "few") ++ " arguments for " ++ owner ++
      "; actual " ++ toString actual ++ ", expected " ++ toString expected
  | .invalidArgument argument => argument ++ " is not valid as type argument"
  | .plainArgument argument => "Plain " ++ argument ++ " is not valid as type argument"
  | .notTypes rule arguments =>
    rule ++ " Got " ++ String.ofList (arguments.toList.take 100) ++ "."
  | .emptyUnion => "Cannot take a Union of no types."
  | .fewNotes =>
    "Annotated[...] should be used with at least two arguments (a type and an annotation)."
  | .callShape => "Callable must be used as Callable[[arg, ...], result]."
  | .callArguments argument =>
    "Expected a list of types, an ellipsis, ParamSpec, or Concatenate. Got " ++ argument
  | .emptyParameters owner => "Parameter list to " ++ owner ++ "[...] cannot be empty"
  | .notVariables owner =>
    "Parameters to " ++ owner ++ "[...] must all be type variables or parameter " ++
      "specification variables."
  | .repeatedVariable owner => "Parameters to " ++ owner ++ "[...] must all be unique"
  | .appliedTwice owner => "Cannot subscript already-subscripted " ++ owner
  | .unhashable sort => "unhashable type: '" ++ sort ++ "'"
  | .noOperation operator left right =>
    "unsupported operand type(s) for " ++ operator ++ ": '" ++ left ++ "' and '" ++ right ++ "'"
  | .noTurn turn sort => "bad operand type for unary " ++ turn ++ ": '" ++ sort ++ "'"
  | .noOrder comparison left right =>
    "'" ++ comparison ++ "' not supported between instances of '" ++ left ++ "' and '" ++
      right ++ "'"
  | .noContainer sort => "argument of type '" ++ sort ++ "' is not iterable"
  | .noLength sort => "object of type '" ++ sort ++ "' has no len()"
  | .arithmetic fault => fault.message
  | .noJoint left right =>
    "can only concatenate " ++ left ++ " (not \"" ++ right ++ "\") to " ++ left
  | .noCount sort => "can't multiply sequence by non-int of type '" ++ sort ++ "'"
  | .noPartOfText sort => "'in <string>' requires string as left operand, not " ++ sort
  | .noStarred sort => "Value after * must be an iterable, not " ++ sort
  | .fewInserted => "not enough arguments for format string"
  | .manyInserted => "not all arguments converted during string formatting"
  | .notCallable sort => "'" ++ sort ++ "' object is not callable"
  | .notMade target => "Cannot instantiate " ++ target
  | .onlyAlias name origin =>
    "Type " ++ name ++ " cannot be instantiated; use " ++ origin ++ "() instead"
  | .notInstantiated name => name ++ " cannot be instantiated"
  | .onlyOffer => "Protocols cannot be instantiated"
  | .missingArguments owner names =>
    owner ++ "() missing " ++ toString names.length ++ " required positional argument" ++
      (if names.length = 1 then ": " else "s: ") ++ listed names
  | .extraArguments owner least most given =>
    owner ++ "() takes " ++
      (if least = most then "" else "from " ++ toString least ++ " to ") ++ toString most ++
      " positional argument" ++ (if least = most && most = 1 then "" else "s") ++ " but " ++
      toString given ++ (if given = 1 then " was given" else " were given")
  | .noArguments owner => owner ++ "() takes no arguments"
  | .notMember value owner => value ++ " is not a valid " ++ owner
  | .uncoercible fault => fault.message
  | .unread => "maximum recursion depth exceeded"

/-- A fault as a message quotes it. A name that was looked up in vain is put in quotes. -/
def shown : AnnotationFault → String
  | .noEntry name => Text.quoted name
  | fault => fault.message

/-- The kind of exception that a fault is raised as. -/
def kind : AnnotationFault → String
  | .unknownName _ => "NameError"
  | .noAttribute .. | .noMember _ => "AttributeError"
  | .noKey _ | .noEntry _ => "KeyError"
  | .notAnExpression _ => "SyntaxError"
  | .outOfRange _ => "IndexError"
  | .arithmetic fault => fault.kind
  | .notMember .. => "ValueError"
  | .uncoercible fault => fault.kind
  | .unread => "RecursionError"
  | _ => "TypeError"

end AnnotationFault

/-- What a call takes: the names of the arguments that it needs, and the greatest number of
arguments. Whatever is called counts as an argument too. -/
structure Signature where
  owner : String
  needed : List String
  most : Nat
deriving Repr

/-- Why a number of arguments does not fit a call, if it does not. -/
def Signature.fault? (signature : Signature) (given : Nat) : Option AnnotationFault :=
  if signature.most < given then
    some (.extraArguments signature.owner (signature.needed.length + 1) (signature.most + 1)
      (given + 1))
  else
    let missing := signature.needed.drop given
    if missing.isEmpty then none else some (.missingArguments signature.owner missing)

/-- How an instance of a class is written: the path of the class, and the names of the fields
in the order of their values. -/
structure InstanceShape where
  owner : String
  path : String
  fields : List String
deriving Repr

/-- The spelling of an instance with the spellings of its values. -/
def InstanceShape.text (shape : InstanceShape) (values : List String) : String :=
  shape.path ++ "(" ++
    Text.join ", " ((shape.fields.zip values).map fun (name, value) => name ++ "=" ++ value) ++ ")"

/-- What initialises the instances of a class: a call with a known signature, or a value
that stands in its place and cannot be called. -/
inductive Initialiser where
  | call (signature : Signature)
  | value (sort : String)
deriving Repr

/-- Why an initialiser does not take a number of arguments, if it does not. -/
def Initialiser.fault? (initialiser : Initialiser) (given : Nat) : Option AnnotationFault :=
  match initialiser with
  | .call signature => signature.fault? given
  | .value sort => some (.notCallable sort)

/-- A form, or why there is none. -/
abbrev Formed := Except AnnotationFault Form

namespace Form

/-! ## Types and places for types -/

/-- Where a type is expected: in the brackets of another form, or as the whole
annotation of a field, where a field can also be marked as no field of instances. -/
inductive Place where
  | argument
  | field
deriving DecidableEq, Repr

/-- The special forms whose applications are no types at a place. -/
def Place.barred : Place → List Special
  | .argument => [.generic, .protocol, .classVariable, .final]
  | .field => [.generic, .protocol]

/-- The expression behind a text in the place of a type. A text that starts with a star
stands for the first part of what is behind it. -/
def referenced? (text : String) : Option Expression :=
  match Text.dropStart? "*" text with
  | some rest => Expression.ofText? (String.ofList (Text.trimLeft rest.toList))
  | none => Expression.ofText? text

/-- A text in the place of a type: a reference that is read later. -/
def reference (text spelling : String) : Formed :=
  if text.isEmpty then .error (.outOfRange "string")
  else if (referenced? text).isSome then .ok (.atom (.forward text spelling))
  else .error (.notAnExpression text)

/-- What stands for a type without a check: no value stands for the type of the missing
value, and a text for a forward reference. -/
def converted : Form → Formed
  | .atom .none => .ok (.atom .noneType)
  | .atom (.scalar (.text text)) => reference text (Text.quoted text)
  | .atom (.member m) =>
    match m.text? with
    | some text => reference text m.spelling
    | none => .ok (.atom (.member m))
  | form => .ok form

/-- A form in the place of a type. The rule says what is expected there. -/
def asType (place : Place) (rule : String) (form : Form) : Formed := do
  match ← form.converted with
  | .generic (.special s) arguments =>
    if s ∈ place.barred then throw (.invalidArgument (Form.generic (.special s) arguments).text)
    else return .generic (.special s) arguments
  | .annotated (.atom (.special s)) notes =>
    let type := Form.annotated (.atom (.special s)) notes
    if s ∈ place.barred then throw (.invalidArgument type.text) else return type
  | .atom (.special s) =>
    if place = .field && (s = .classVariable || s = .final) then return .atom (.special s)
    else if s = .annotated || s = .initVariable then return .atom (.special s)
    else throw (.plainArgument (Atom.special s).display)
  | .group .tuple items => throw (.notTypes rule (Form.group .tuple items).display)
  | form => return form

/-- The rule for the arguments of most forms. -/
def parameterRule : String := "Parameters to generic types must be types."

/-- The rule for the options of a union. -/
def optionRule : String := "Union[arg, ...]: each arg must be a type."

/-! ## Unions -/

/-- The options that a form brings into a union. -/
def options : Form → List Form
  | .union _ options => options
  | form => [form]

/-- The union of forms: unions among them are flattened, an option counts once, and a
union of one option is that option. Only options between bars may be lists. -/
def unionOf (barred : Bool) (forms : List Form) : Formed :=
  let options := forms.flatMap options
  match barred, changingIn? options with
  | false, some sort => .error (.unhashable sort)
  | _, _ =>
    match Distinct.listBy same options with
    | [option] => .ok option
    | options => .ok (.union barred options)

/-- The union of what is in the places of types. -/
def unionOfTypes (forms : List Form) : Formed := do
  unionOf false (← forms.mapM (asType .argument optionRule))

/-- A library class, or a class derived from one, applied to arguments. -/
def isPlainHead : Head → Bool
  | .library _ => true
  | .contract c => c.parameters.isEmpty
  | _ => false

/-- Classes, applied library classes and barred unions can stand next to a bar without
the help of typing; so can the missing value. -/
def isPlainOperand : Form → Bool
  | .atom .none => true
  | .atom a => a.isClass
  | .generic head _ => isPlainHead head
  | .union barred _ => barred
  | _ => false

/-- Typing forms can stand on either side of a bar and make a union of what is there. -/
def isTypingOperand : Form → Bool
  | .atom (.variable _) => true
  | .atom (.alias _) => true
  | .atom (.special s) => !s.isClass
  | .atom (.forward ..) => true
  | .generic head _ => !isPlainHead head
  | .union barred _ => !barred
  | .annotated .. => true
  | _ => false

/-- Two forms with a bar between them. -/
def alternative (left right : Form) : Formed :=
  let option : Form → Form
    | .atom .none => .atom .noneType
    | form => form
  let isNone : Form → Bool
    | .atom .none => true
    | _ => false
  if left.isTypingOperand || right.isTypingOperand then unionOfTypes [left, right]
  else if left.isPlainOperand && right.isPlainOperand && !(isNone left && isNone right) then
    unionOf true [option left, option right]
  else .error (.noOperation "|" left.sort right.sort)

/-! ## Replacing variables -/

mutual

/-- A form with types in the places of its variables; unions are formed anew. -/
def replace (types : TypeVariable → Option Form) : Form → Formed
  | .atom (.variable v) =>
    match types v with
    | some type => type.asType .argument parameterRule
    | none => .ok (.atom (.variable v))
  | .atom a => .ok (.atom a)
  | .generic head arguments => do return .generic head (← replaceAll types arguments)
  | .union barred options => do unionOf barred (← replaceAll types options)
  | .annotated type notes => do return .annotated (← type.replace types) notes
  | .initVariable type => .ok (.initVariable type)
  | .group grouping items => .ok (.group grouping items)

/-- Forms with types in the places of their variables. -/
def replaceAll (types : TypeVariable → Option Form) :
    List Form → Except AnnotationFault (List Form)
  | [] => .ok []
  | form :: rest => do
    let form ← form.replace types
    return form :: (← replaceAll types rest)

end

/-! ## Brackets -/

/-- Values that tell no module cannot be annotated with notes. -/
def isBareValue : Form → Bool
  | .atom (.scalar _) => true
  | .atom .ellipsis => true
  | .group .. => true
  | _ => false

/-- An annotated type. The notes of an annotated type inside come first. -/
def annotatedOf (type : Form) (notes : List Form) : Form :=
  match type with
  | .annotated inner earlier => .annotated inner (earlier ++ notes)
  | type => .annotated type notes

/-- The values of a literal form, with those of literal forms among them. -/
def literalValues : Form → List Form
  | .generic (.special .literal) values => values
  | form => [form]

/-- A literal form: each value counts once, unless some of them cannot be looked up. -/
def literalOf (values : List Form) : Form :=
  let values := values.flatMap literalValues
  .generic (.special .literal)
    (if (changingIn? values).isSome then values else Distinct.listBy sameSorted values)

/-- The declaration of type parameters, which are variables and differ from each other. -/
def parameterList (s : Special) (arguments : List Form) : Formed := do
  let arguments ← arguments.mapM converted
  if arguments.isEmpty then throw (.emptyParameters s.name)
  if arguments.any fun form => match form with | .atom (.variable _) => false | _ => true then
    throw (.notVariables s.name)
  if (Distinct.listBy same arguments).length != arguments.length then
    throw (.repeatedVariable s.name)
  return .generic (.special s) arguments

/-- A special form with an index in brackets. -/
def applySpecial (s : Special) (index : Form) : Formed := do
  match s with
  | .union =>
    if index.arguments.isEmpty then throw .emptyUnion
    unionOfTypes index.arguments
  | .optional =>
    let argument ← index.asType .argument (s.fullName ++ " requires a single type.")
    unionOfTypes [argument, .atom .noneType]
  | .literal => return literalOf index.arguments
  | .classVariable | .final =>
    return .generic (.special s)
      [← index.asType .argument (s.fullName ++ " accepts only single type.")]
  | .annotated =>
    match index.arguments with
    | type :: note :: notes =>
      let type ← type.asType .field "Annotated[t, ...]: t must be a type."
      if type.isBareValue then throw (.noAttribute ("'" ++ type.sort ++ "' object") "__module__")
      return annotatedOf type (note :: notes)
    | _ => throw .fewNotes
  | .generic | .protocol => parameterList s index.arguments
  | .initVariable => return .initVariable index

/-- The arguments that a callable takes, as they stand in its brackets. -/
def takenTypes : Form → Except AnnotationFault (List Form)
  | .group .list items => items.mapM converted
  | .group .tuple items => items.mapM converted
  | taken => return [← taken.converted]

/-- A typing alias applied to arguments. -/
def applyAlias (a : Alias) (arguments : List Form) : Formed := do
  match a.arity with
  | .exactly count =>
    let types ← arguments.mapM (asType .argument parameterRule)
    if count = 0 then throw (.notGeneric a.text)
    if types.length = count then return .generic (.alias a) types
    throw (.argumentCount a.text types.length count)
  | .any =>
    if 2 ≤ arguments.length && (arguments.getLast?.any isEllipsis) then
      let types ← arguments.dropLast.mapM (asType .argument "Tuple[t, ...]: t must be a type.")
      return .generic (.alias a) (types ++ [.atom .ellipsis])
    return .generic (.alias a)
      (← arguments.mapM (asType .argument "Tuple[t0, t1, ...]: each t must be a type."))
  | .call =>
    match arguments with
    | [taken, result] =>
      let result ← result.asType .argument "Callable[args, result]: result must be a type."
      return .generic (.alias a) ((← takenTypes taken) ++ [result])
    | _ => throw .callShape

/-- What a form is shown as where texts stand for themselves. -/
def shown : Form → String
  | .atom (.scalar (.text text)) => text
  | form => form.display

/-- The arguments of the class of callables: what is taken, in brackets or left open, and
the result. -/
def callArguments (arguments : List Form) : Except AnnotationFault (List Form) :=
  match arguments with
  | [.atom .ellipsis, result] => .ok [.atom .ellipsis, result]
  | [.group .list taken, result] => .ok (taken ++ [result])
  | [.group .tuple taken, result] => .ok (taken ++ [result])
  | [taken, _] => .error (.callArguments taken.shown)
  | _ => .error .callShape

/-- A library class applied to arguments, which are kept as they are. -/
def applyLibrary (c : LibraryClass) (arguments : List Form) : Formed :=
  if c = .callable then (callArguments arguments).map (.generic (.library c))
  else if c.isSubscriptable then .ok (.generic (.library c) arguments)
  else .error (.notSubscriptable ("type '" ++ c.label ++ "'"))

/-- A generic class of the contracts applied to arguments. -/
def applyContract (c : ClassRef) (arguments : List Form) : Formed := do
  let types ← arguments.mapM converted
  if c.parameters.isEmpty then throw (.notGeneric c.display)
  if types.length = c.parameters.length then return .generic (.contract c) types
  throw (.argumentCount c.display types.length c.parameters.length)

/-- A form with variables applied to types for them. -/
def applyAgain (form : Form) (arguments : List Form) : Formed := do
  match form with
  | .generic (.special .generic) _ | .generic (.special .protocol) _ =>
    throw (.appliedTwice form.text)
  | _ =>
    let parameters := form.typeVariables
    if parameters.isEmpty then throw (.notGeneric form.text)
    let types ← if form.isTypingOperand then arguments.mapM converted else pure arguments
    if types.length != parameters.length then
      throw (.argumentCount form.text types.length parameters.length)
    form.replace fun v => (parameters.zip types).lookup v

end Form

end TypeContracts
