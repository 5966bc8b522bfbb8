import TypeContracts.Config.Document
import TypeContracts.Files.Tree
import TypeContracts.Layout
import TypeContracts.Mapping.Override
import TypeContracts.Text.LineEnds

/-!
# Settings

The settings of a project, read from the configuration file in its directory. Keys with
a value of the wrong sort count as missing, except where a choice is asked for: there
the value has to be one of the words of the choice.
-/

set_option autoImplicit false

namespace TypeContracts

/-- The name of the configuration file. -/
def configName : String := ".contractgen.yml"

/-- Why settings cannot be read. -/
inductive ConfigFault where
  | document (fault : DocumentFault)
  | unshowable
  | notAMapping
  | invalidChoice (value key : String) (allowed : List String)
  | incompleteOverride (name : String)
deriving DecidableEq, Repr

/-- What is said about a whole number that is too long. -/
def tooLong (count : String) : String :=
  "Exceeds the limit (" ++ toString Data.digitLimit ++ " digits) for integer string conversion" ++
    count ++ "; use sys.set_int_max_str_digits() to increase the limit"

/-- The report of a document that has no value. -/
def DocumentFault.message : DocumentFault → String
  | .malformed => "Failed to parse " ++ configName
  | .calendar fault => fault.message
  | .noDigits base => "invalid literal for int() with base " ++ toString base ++ ": ''"
  | .tooManyDigits count => tooLong (": value has " ++ toString count ++ " digits")
  | .beyondReals => "int too large to convert to float"
  | .noCharacter => "chr() arg not in range(0x110000)"
  | .beyondCodes => "Python int too large to convert to C int"

/-- The report of settings that cannot be read. -/
def ConfigFault.message : ConfigFault → String
  | .document fault => fault.message
  | .unshowable => tooLong ""
  | .notAMapping => configName ++ " must contain a mapping at the root"
  | .invalidChoice value key allowed =>
    "Invalid value '" ++ value ++ "' for '" ++ key ++ "'; expected one of: " ++
      Text.join ", " allowed
  | .incompleteOverride name => "Override for '" ++ name ++ "' needs both 'name' and 'path'"

/-- The kind of fault that a report is filed under. -/
def ConfigFault.kind : ConfigFault → String
  | .document .malformed => "ConfigError"
  | .document .beyondReals => "OverflowError"
  | .document .beyondCodes => "OverflowError"
  | .document _ => "ValueError"
  | .unshowable => "ValueError"
  | _ => "ConfigError"

/-- The fault lies in how settings are written, and a run reports it; any other fault ends
the program. -/
def ConfigFault.isReported (fault : ConfigFault) : Bool := fault.kind == "ConfigError"

/-- The settings of a project. -/
structure Settings where
  root : Location
  output : Option Location := none
  modules : List String := []
  layout : LayoutKind := .perType
  rootNamespace : Option String := none
  options : Options := {}
  overrides : List (String × HandWritten) := []
  templates : Option Location := none
deriving Inhabited

/-- What a configuration file holds: nothing, because it is missing; text; or data. -/
inductive ConfigSource where
  | missing
  | text (value : String)
  | data (value : Data)
deriving Inhabited

namespace Config

/-! ## Values by sort -/

/-- The text that a value is shown as. -/
def shown (value : Data) : Except ConfigFault String :=
  if value.isShowable then .ok value.shown else .error .unshowable

/-- Texts and numbers as text. -/
def textOf? (value : Data) : Except ConfigFault (Option String) :=
  match value with
  | .text _ | .integer _ | .real _ => (shown value).map some
  | _ => .ok none

/-- A text that is there and not empty. -/
def filled? (value : Option String) : Option String :=
  value.bind fun text => if text.isEmpty then none else some text

/-- Truth values, and the words for them. -/
def flagOf? : Data → Option Bool
  | .flag value => some value
  | .text value =>
    let word := Text.lower (Text.strip value)
    if ["true", "yes", "1"].contains word then some true
    else if ["false", "no", "0"].contains word then some false
    else none
  | _ => none

/-- The items of a list that are shown as text. -/
def itemTexts (items : List Data) : Except ConfigFault (List String) :=
  (items.filter fun
    | .text _ | .integer _ | .real _ | .flag _ => true
    | _ => false).mapM shown

/-- A list of texts; a single text counts as a list. -/
def textsOf : Data → Except ConfigFault (List String)
  | .text value => .ok [value]
  | .list items => itemTexts items
  | _ => .ok []

/-- The word that a text spells when a choice is asked for. -/
def choiceWord (text : String) : String :=
  (Text.lower (Text.strip text)).map fun c => if c = '-' then '_' else c

/-- The alternative that a value names; null names none. -/
def choiceOf {α : Type} [Choice α] (value : Data) (key : String) :
    Except ConfigFault (Option α) :=
  match value with
  | .null => .ok none
  | value => do
    let text ← shown value
    match Choice.ofWord? (choiceWord text) with
    | some alternative => return some alternative
    | none => throw (.invalidChoice text key (Choice.words α))

/-! ## Sections -/

/-- The generation options of a section. -/
def optionsOf (generation : List (Data × Data)) : Except ConfigFault Options := do
  let field := Data.field generation
  let enumStyle ← choiceOf (field "enum_generation_mode") "enum_generation_mode"
  let nullabilityMode ← choiceOf (field "nullability_mode") "nullability_mode"
  let linterMark ← choiceOf (field "linter_disable_mode") "linter_disable_mode"
  let customMarker ← textOf? (field "custom_content_marker")
  let dateStyle ← choiceOf (field "date_time_mode") "date_time_mode"
  let nullablePath ← textOf? (field "nullable_unit_path")
  return {
    explicitNullability := (flagOf? (field "enable_explicit_nullability")).getD true
    optionalProperties := (flagOf? (field "enable_optional_properties")).getD true
    enumStyle := enumStyle.getD .numeric
    useGlobalNullable := (flagOf? (field "use_global_nullable")).getD false
    nullabilityMode := nullabilityMode
    linterMark := linterMark.getD .nowhere
    customMarker := customMarker
    dateStyle := dateStyle.getD .string
    nullablePath := (filled? nullablePath).getD "Nullable" }

/-- Targets with one more. A name that is there keeps its place and takes the new target. -/
def insertTarget (targets : List (String × HandWritten)) (name : String)
    (written : HandWritten) : List (String × HandWritten) :=
  if targets.any fun entry => entry.1 == name then
    targets.map fun entry => if entry.1 == name then (name, written) else entry
  else targets ++ [(name, written)]

/-- The hand-written types of a section, after those already read. -/
def overridesOf (targets : List (String × HandWritten)) :
    List (Data × Data) → Except ConfigFault (List (String × HandWritten))
  | [] => .ok targets
  | (key, spec) :: rest => do
    let name ← textOf? (Data.field spec.entries "name")
    let path ← textOf? (Data.field spec.entries "path")
    let target ← shown key
    match filled? name, filled? path with
    | some name, some path => overridesOf (insertTarget targets target ⟨name, path⟩) rest
    | _, _ => throw (.incompleteOverride target)

/-- The settings of the entries of a configuration. -/
def settingsOf (root : Location) (entries : List (Data × Data)) :
    Except ConfigFault Settings := do
  let field := Data.field entries
  let place (name : String) : Except ConfigFault (Option Location) :=
    (textOf? (field name)).map fun path => (filled? path).map root.join
  let output ← place "output"
  let templates ← place "templates_dir"
  let modules ← textsOf (field "modules")
  let layout ← choiceOf (field "layout") "layout"
  let rootNamespace ← textOf? (field "root_namespace")
  let options ← optionsOf (field "generation").entries
  let overrides ← overridesOf [] (field "overrides").entries
  return {
    root := root
    output := output
    modules := modules
    layout := layout.getD .perType
    rootNamespace := rootNamespace
    options := options
    overrides := overrides
    templates := templates }

/-! ## Reading -/

/-- The data of a configuration text; a text of white space says nothing. -/
def dataOf (text : String) : Except ConfigFault Data :=
  if (Text.strip text).isEmpty then .ok .null
  else (Document.read (Text.unified text)).mapError .document

/-- The settings that data say. -/
def ofData (root : Location) (data : Data) : Except ConfigFault Settings :=
  if data.isBlank then settingsOf root []
  else
    match data with
    | .map entries => settingsOf root entries
    | _ => .error .notAMapping

/-- The settings of a configuration file in a directory. -/
def load (root : Location) : ConfigSource → Except ConfigFault Settings
  | .missing => .ok { root := root }
  | .text text => do ofData root (← dataOf text)
  | .data data => ofData root data

/-- The configuration file that a path means: the one in a directory, the file itself, or
the one beside another file. -/
def fileFor (tree : FileTree) (path : Location) : Except FileFault Location := do
  let file := match ← tree.find path with
    | some .directory => path.join configName
    | _ => if path.name = configName then path else path.parent.join configName
  if file.hasNull then throw (.nullCharacter "lstat")
  return file.plain

end Config

end TypeContracts
