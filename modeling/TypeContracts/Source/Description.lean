import TypeContracts.Host.Basic
import TypeContracts.Source.Loading

/-!
# Describing the types of the contracts

From a form to the host type that it describes, and from a class to its members. Type
variables are described by the scope: a generic class is described with its parameters
bound to the descriptions of its arguments, and an inherited annotation with the
parameters of the bases bound along the chain of bases.
-/

set_option autoImplicit false

namespace TypeContracts

/-- A class whose members are read later, with what its type parameters stand for. -/
inductive ClassLoader where
  | of (c : ClassRef) (scope : List (TypeVariable × Host ClassLoader))

/-- What type variables stand for. -/
abbrev TypeScope := List (TypeVariable × Host ClassLoader)

/-- The description of a form. -/
abbrev Description := Except Fault (Host ClassLoader)

namespace Description

/-! ## Plain types -/

/-- A primitive type. -/
def primitive (space name : String) : Host ClassLoader :=
  { kind := .primitive, fullName := space ++ "." ++ name, name := name }

/-- The type of all values. -/
def anything : Host ClassLoader := primitive "typing" "Any"

/-- The type of the missing value. -/
def nothing : Host ClassLoader := primitive "builtins" "NoneType"

/-- A sequence type with its elements. -/
def sequence (c : LibraryClass) (element : Host ClassLoader) : Host ClassLoader :=
  { kind := .sequence, fullName := c.fullName, name := c.name,
    arguments := [element], element := some element }

/-- A mapping type with its keys and values. -/
def mapping (c : LibraryClass) (key value : Host ClassLoader) : Host ClassLoader :=
  { kind := .mapping, fullName := c.fullName, name := c.name,
    arguments := [key, value], key := some key, value := some value }

/-- The union of described options; nullable where the missing value was among them. A
single option stands for itself. -/
def union (options : List (Host ClassLoader)) (nullable : Bool) : Host ClassLoader :=
  match options with
  | [option] => if nullable then option.asNullable true else option
  | options =>
    { kind := .union, fullName := "typing.Union", name := "Union",
      arguments := options, options := options, nullable := nullable }

/-- An object type with its type arguments. -/
def object (c : ClassRef) (arguments : List (Host ClassLoader)) : Host ClassLoader :=
  { kind := .object, fullName := c.fullName, name := c.name, arguments := arguments,
    loader := some (.of c (c.parameters.zip arguments)) }

/-- A library class without arguments. -/
def ofLibrary (c : LibraryClass) : Description :=
  match c.role with
  | .sequence => .ok (sequence c anything)
  | .mapping => .ok (mapping c (primitive "builtins" "str") anything)
  | .date => .ok { kind := .date, fullName := c.fullName, name := c.name }
  | .primitive => .ok (primitive c.space c.name)
  | .enumeration => .ok { kind := .enumeration, fullName := c.fullName, name := c.name }
  | .other => .error (.unresolved c.fullName .noFields)

/-- The failure of asking a class for what it keeps something else in the place of. -/
def spoiled {α : Type} (kind report : String) : Except Fault α := .error (.raised kind report)

/-- A class of the contracts without arguments. -/
def ofClass (world : World) (c : ClassRef) : Description :=
  match world.record? c with
  | none => .error (.unresolved c.fullName .noFields)
  | some record =>
    match record.enumeration with
    | some members =>
      .ok { kind := .enumeration, fullName := c.fullName, name := c.name,
            enumMembers := members.listed }
    | none =>
      if world.isOpen record then .error (.unresolved c.fullName .genericWithoutArguments)
      else
        match world.isStructured record with
        | .error report => spoiled "ValueError" report
        | .ok true => .ok (object c [])
        | .ok false => .error (.unresolved c.fullName .noFields)

/-- An atom in a scope of type variables. -/
def ofAtom (world : World) (scope : TypeScope) : Atom → Description
  | .variable v =>
    match scope.lookup v with
    | some host => .ok host
    | none => .error (.unresolved ("~" ++ v.name) .unboundVariable)
  | .any => .ok anything
  | .none => .ok nothing
  | .noneType => .ok nothing
  | .alias a =>
    match a.origin.role with
    | .sequence => .ok (sequence a.origin anything)
    | .mapping => .ok (mapping a.origin (primitive "builtins" "str") anything)
    | _ => .error (.unresolved a.text .unsupportedForm)
  | .library c => ofLibrary c
  | .contract c => ofClass world c
  | .special .generic => .error (.unresolved Special.generic.fullName .unsupportedForm)
  | .special s =>
    .error (.unresolved s.fullName (if s.isClass then .noFields else .notAType))
  | a => .error (.unresolved a.title .notAType)

/-- The library class that a head stands for, when its arguments make a container. -/
def container? : Head → Option LibraryClass
  | .library c => some c
  | .alias a => some a.origin
  | _ => none

/-- The parameters of a generic class of the contracts. -/
def parameters? : Head → Option ClassRef
  | .contract c => if c.parameters.isEmpty then none else some c
  | _ => none

/-- A generic form that is no container and no generic class. -/
def unsupported (head : Head) (arguments : List Form) : Description :=
  .error (.unresolved (Form.generic head arguments).text .unsupportedForm)

mutual

/-- The description of a form in a scope of type variables. -/
def ofForm (world : World) (scope : TypeScope) : Form → Description
  | .atom a => ofAtom world scope a
  | .annotated type _ => ofForm world scope type
  | .union _ options => do
    return union (← ofOptions world scope [] options) (options.any Form.isMissing)
  | .initVariable type => .error (.unresolved (Form.initVariable type).title .notAType)
  | .group grouping items => .error (.unresolved (Form.group grouping items).title .notAType)
  | .generic head arguments =>
    match container? head with
    | some c =>
      match c.role with
      | .sequence => do
        return sequence c (← ofElements world scope c arguments)
      | .mapping => do
        match ← ofPair world scope arguments with
        | some (key, value) => return mapping c key value
        | none => return mapping c (primitive "builtins" "str") anything
      | _ => unsupported head arguments
    | none =>
      match parameters? head with
      | none => unsupported head arguments
      | some c =>
        if c.parameters.length = arguments.length then do
          return object c (← ofForms world scope arguments)
        else .error (.unresolved c.fullName .argumentCount)

/-- The descriptions of several forms. -/
def ofForms (world : World) (scope : TypeScope) :
    List Form → Except Fault (List (Host ClassLoader))
  | [] => .ok []
  | form :: rest => do
    let first ← ofForm world scope form
    return first :: (← ofForms world scope rest)

/-- The descriptions of the options of a union: each once, and none for the missing value. -/
def ofOptions (world : World) (scope : TypeScope) (seen : List Form) :
    List Form → Except Fault (List (Host ClassLoader))
  | [] => .ok []
  | form :: rest =>
    if form.isMissing || seen.any form.same then ofOptions world scope seen rest
    else do
      let first ← ofForm world scope form
      return first :: (← ofOptions world scope (form :: seen) rest)

/-- The description of the elements of a sequence: the first argument, but all of them
together for a tuple of several elements. -/
def ofElements (world : World) (scope : TypeScope) (c : LibraryClass) :
    List Form → Description
  | [] => .ok anything
  | [form] => ofForm world scope form
  | form :: second :: rest =>
    if c = LibraryClass.tuple then
      if second.isEllipsis && rest.isEmpty then ofForm world scope form
      else
        match Form.changingIn? (form :: second :: rest) with
        | some sort => spoiled "TypeError" (AnnotationFault.unhashable sort).message
        | none => do
          return union (← ofOptions world scope [] (form :: second :: rest))
            ((form :: second :: rest).any Form.isMissing)
    else ofForm world scope form

/-- The descriptions of the keys and the values of a mapping with two arguments. -/
def ofPair (world : World) (scope : TypeScope) :
    List Form → Except Fault (Option (Host ClassLoader × Host ClassLoader))
  | [key, value] => do
    let key ← ofForm world scope key
    return some (key, ← ofForm world scope value)
  | _ => .ok none

end

end Description

namespace World

/-! ## Members -/

/-- The scope of the annotations of a class: what its own parameters stand for, and the
parameters of its bases, each bound to the description of its argument where it is met
first. -/
def memberScope (world : World) (record : ClassRecord) (scope : TypeScope) :
    Except Fault TypeScope :=
  match world.baseArguments record with
  | .error sort => Description.spoiled "TypeError" (CoercionFault.noIterable sort).message
  | .ok arguments =>
    arguments.foldlM (fun scope (parameter, argument) => do
      if (scope.lookup parameter).isSome then return scope
      return scope ++ [(parameter, ← Description.ofForm world scope argument)]) scope

/-- The annotation marks a variable of the class. -/
def isClassVariable : Form → Bool
  | .generic (.special .classVariable) _ => true
  | _ => false

/-- The names of the members of a class: the fields of instances of a record class, and
otherwise all annotated names but those of class variables. -/
def memberNames (world : World) (record : ClassRecord) (hints : Scope) :
    Except Fault (List String) :=
  match world.recordFields? record with
  | some (.ok fields) => .ok ((fields.filter (·.kind = .plain)).map RecordField.name)
  | some (.error sort) =>
    Description.spoiled "AttributeError"
      (AnnotationFault.noAttribute ("'" ++ sort ++ "' object") "values").message
  | none => .ok ((hints.filter fun (_, form) => !isClassVariable form).map Prod.fst)

/-- The members of a class in a scope. -/
def describeMembers (world : World) (scope : TypeScope) (hints : Scope) (names : List String) :
    Except Fault (List (HostMember ClassLoader)) := do
  let visible : List (String × Form) := names.filterMap fun name =>
    if Text.startsWith "_" name then none else (hints.find? name).map fun form => (name, form)
  visible.mapM fun (name, form) => do
    return ⟨name, ← Description.ofForm world scope form⟩

/-- Reads the members of a class. -/
def members (world : World) : MemberSource ClassLoader
  | .of c scope =>
    match world.record? c with
    | none => .ok []
    | some record => do
      let hints ← (world.hints record).mapError fun fault =>
        .unresolved c.fullName (.annotations fault.shown)
      let scope ← world.memberScope record scope
      world.describeMembers scope hints (← world.memberNames record hints)

/-! ## Root types -/

/-- A class of a module is a root type: an enumeration or a class with annotated fields that
the module itself defines, without type parameters that are left open. -/
def isRoot (world : World) (module : String) : Form → Except Fault Bool
  | .atom (.contract c) =>
    match world.record? c with
    | none => .ok false
    | some record =>
      if c.space != module || world.isOpen record then .ok false
      else if record.enumeration.isSome then .ok true
      else
        match world.isStructured record with
        | .error report => Description.spoiled "ValueError" report
        | .ok isStructured => .ok isStructured
  | _ => .ok false

/-- The root types of a loaded module, in the order of their definition. -/
def moduleRoots (world : World) (module : String) : Except Fault (List Form) := do
  let visible := (world.moduleScope module).filter fun (name, _) => !Text.startsWith "_" name
  return (← visible.filterM fun (_, form) => world.isRoot module form).map Prod.snd

end World

namespace Loading

/-- The fault of a run whose modules cannot be loaded. -/
def runFault (module : String) (fault : SourceFault) : Fault :=
  if fault.isImportFault then .unresolved module (.notImportable fault.message)
  else .raised fault.kind fault.message

/-- The root types of modules behind those that are given, each once. The modules are
loaded in turn. -/
def rootTypes (shelf : Shelf) (roots : List Form) (modules : List String) :
    ExceptT Fault (StateM World) (List Form) :=
  modules.foldlM (fun roots module => do
    match ← (requireGiven shelf module).run with
    | .error fault => throw (runFault module fault)
    | .ok () =>
      return (← liftM ((← get).moduleRoots module)).foldl (Distinct.addBy Form.same) roots) roots

end Loading

end TypeContracts
