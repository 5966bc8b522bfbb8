/-!
# Generation options

The choices of a run, fixed once and handed to mapping and emission. An explicit
nullability mode wins over the two older flags (`Options.nullability`).
-/

set_option autoImplicit false

namespace TypeContracts

/-- How a nullable reference is written. -/
inductive Nullability where
  | plain
  | explicit
  | globalAlias
deriving DecidableEq, Repr, Inhabited

/-- How an enumeration is declared. -/
inductive EnumStyle where
  | numeric
  | stringUnion
deriving DecidableEq, Repr, Inhabited

/-- Where the linter is switched off. -/
inductive LinterMark where
  | nowhere
  | perFile
  | perLine
deriving DecidableEq, Repr, Inhabited

/-- How dates and times are typed. -/
inductive DateStyle where
  | string
  | branded
deriving DecidableEq, Repr, Inhabited

/-- How declarations are spread over files. -/
inductive LayoutKind where
  | perType
  | perNamespace
deriving DecidableEq, Repr, Inhabited

/-! ## Words for the choices -/

/-- A choice with a fixed list of named alternatives. -/
class Choice (α : Type) where
  alternatives : List (String × α)

instance : Choice Nullability where
  alternatives :=
    [("none", .plain), ("explicit", .explicit), ("use_global_nullable", .globalAlias)]

instance : Choice EnumStyle where
  alternatives := [("numeric", .numeric), ("string_union", .stringUnion)]

instance : Choice LinterMark where
  alternatives := [("none", .nowhere), ("per_file", .perFile), ("per_line", .perLine)]

instance : Choice DateStyle where
  alternatives := [("string", .string), ("branded", .branded)]

instance : Choice LayoutKind where
  alternatives := [("per_type", .perType), ("per_namespace", .perNamespace)]

namespace Choice

variable {α : Type} [Choice α]

/-- The alternative that a word names. -/
def ofWord? (word : String) : Option α :=
  (alternatives.find? fun entry => entry.1 == word).map Prod.snd

/-- The word for an alternative. -/
def word [DecidableEq α] (value : α) : String :=
  ((alternatives.find? fun entry => entry.2 == value).map Prod.fst).getD ""

/-- All words of a choice. -/
def words (α : Type) [Choice α] : List String := (alternatives : List (String × α)).map Prod.fst

end Choice

/-! ## Options -/

/-- The marker text of a generated file unless the options set another. -/
def defaultMarker : String := "contractgen's generated content"

/-- The choices of a generation run. -/
structure Options where
  explicitNullability : Bool := true
  optionalProperties : Bool := true
  enumStyle : EnumStyle := .numeric
  useGlobalNullable : Bool := false
  nullabilityMode : Option Nullability := none
  linterMark : LinterMark := .nowhere
  customMarker : Option String := none
  dateStyle : DateStyle := .string
  nullablePath : String := "Nullable"
deriving DecidableEq, Repr, Inhabited

namespace Options

/-- The effective nullability. -/
def nullability (options : Options) : Nullability :=
  match options.nullabilityMode with
  | some mode => mode
  | none =>
    if options.useGlobalNullable then .globalAlias
    else if options.explicitNullability then .explicit
    else .plain

/-- The effective marker text. -/
def marker (options : Options) : String :=
  match options.customMarker with
  | some text => if text.isEmpty then defaultMarker else text
  | none => defaultMarker

end Options

end TypeContracts
