import TypeContracts.Source.Module
import TypeContracts.Text.LineEnds

/-!
# Contract modules as texts

Reading the declarations of a contract module from its text: imports, type variables,
and classes with their annotated fields and assigned values. Statements that declare
nothing of the kind are passed over, with all that is indented below them. A text that
breaks off inside a literal, or a class that cannot be read, makes a module that refuses
to be executed.
-/

set_option autoImplicit false

namespace TypeContracts

/-- A line of a source text: how far it is indented, and its lexemes. -/
structure SourceLine where
  indentation : Nat
  lexemes : List Lexeme
deriving Repr

/-- The declarations in the lines of a block, each sort in order. -/
structure Block where
  isDeferred : Bool := false
  refusal : Option (String × String) := none
  imports : List ImportSource := []
  typeVariables : List String := []
  classes : List ClassSource := []
  fields : List (String × Expression) := []
  members : List (String × MemberValue) := []
deriving Inhabited

namespace ModuleText

/-- The lines of lexemes. -/
def lines (lexemes : List Lexeme) : List SourceLine :=
  (lexemes.foldr (fun lexeme (pending, lines) =>
    match lexeme with
    | .line indentation => ([], ⟨indentation, pending⟩ :: lines)
    | lexeme => (lexeme :: pending, lines)) ([], [])).2

/-! ## Values -/

/-- A number below zero. -/
def negated? : Scalar → Option Scalar
  | .integer value => some (.integer (-value))
  | .real value => some (.real value.negated)
  | _ => none

mutual

/-- The value at the start of lexemes, and the lexemes behind it. The count bounds the
number of steps. -/
def readValue : Nat → List Lexeme → Option (EnumValue × List Lexeme)
  | 0, _ => none
  | count + 1, lexemes =>
    match lexemes with
    | .literal value :: rest => some (value.value, rest)
    | .mark "-" :: .literal value :: rest =>
      (negated? value).map fun value => (value.value, rest)
    | .name "True" :: rest => some (.flag true, rest)
    | .name "False" :: rest => some (.flag false, rest)
    | .name "None" :: rest => some (.absent, rest)
    | .mark "(" :: .mark ")" :: rest => some (.tuple [], rest)
    | .mark "(" :: rest => do
      let (first, rest) ← readValue count rest
      match rest with
      | .mark ")" :: rest => return (first, rest)
      | .mark "," :: rest =>
        let (others, rest) ← readParts count rest
        return (.tuple (first :: others), rest)
      | _ => none
    | _ => none

/-- The parts of a tuple up to its closing bracket. -/
def readParts : Nat → List Lexeme → Option (List EnumValue × List Lexeme)
  | 0, _ => none
  | count + 1, lexemes =>
    match lexemes with
    | .mark ")" :: rest => some ([], rest)
    | lexemes => do
      let (part, rest) ← readValue count lexemes
      match rest with
      | .mark ")" :: rest => return ([part], rest)
      | .mark "," :: rest =>
        let (others, rest) ← readParts count rest
        return (part :: others, rest)
      | _ => none

end

/-- The value that a member is assigned; a value that cannot be read is left open. -/
def memberValue (lexemes : List Lexeme) : MemberValue :=
  match lexemes with
  | [.name "auto", .mark "(", .mark ")"] => .automatic
  | [.name "enum", .mark ".", .name "auto", .mark "(", .mark ")"] => .automatic
  | lexemes =>
    match readValue (2 * lexemes.length + 1) lexemes with
    | some (value, []) => .given value
    | _ => .given .absent

/-! ## Imports and type variables -/

/-- The text of a lexeme in the name of a module. -/
def moduleWord : Lexeme → String
  | .name text => text
  | .ellipsis => "..."
  | .mark text => text
  | _ => ""

/-- The names that are imported from a module, between commas and maybe in brackets. -/
def importedNames (module : String) : List Lexeme → List ImportSource
  | .mark "*" :: _ => [.all module]
  | .name name :: .name "as" :: .name known :: rest =>
    .one module name known :: importedNames module rest
  | .name name :: rest => .one module name name :: importedNames module rest
  | _ :: rest => importedNames module rest
  | [] => []

/-- The block with the names that are imported from a module. -/
def withImports (lexemes : List Lexeme) (block : Block) : Block :=
  let words := lexemes.takeWhile (· ≠ .name "import")
  let module := String.join (words.map moduleWord)
  let names := importedNames module (lexemes.drop (words.length + 1))
  if module = "__future__" then
    let isDeferring := names.contains (.one module "annotations" "annotations")
    { block with isDeferred := block.isDeferred || isDeferring }
  else { block with imports := names ++ block.imports }

/-- The modules that are imported as spaces of their own, between commas. -/
def importedSpaces : List (List Lexeme) → List ImportSource
  | [] => []
  | lexemes :: rest =>
    let words := lexemes.takeWhile (· ≠ .name "as")
    let known := match lexemes.drop (words.length + 1) with
      | [.name known] => some known
      | _ => none
    .space (String.join (words.map moduleWord)) known :: importedSpaces rest

/-- The lexemes between commas. -/
def betweenCommas (lexemes : List Lexeme) : List (List Lexeme) :=
  lexemes.foldr (fun lexeme parts =>
    match lexeme, parts with
    | .mark ",", parts => [] :: parts
    | lexeme, part :: parts => (lexeme :: part) :: parts
    | lexeme, [] => [[lexeme]]) [[]]

/-- The lexemes make a type variable. -/
def isVariable : List Lexeme → Bool
  | .name "TypeVar" :: .mark "(" :: _ => true
  | .name "typing" :: .mark "." :: .name "TypeVar" :: .mark "(" :: _ => true
  | _ => false

/-! ## Classes -/

/-- The mark of a record class that lexemes are, if they are one. -/
def recordMark? : List Lexeme → Option Expression
  | .name "dataclass" :: _ => some (.named "dataclass")
  | .name "dataclasses" :: .mark "." :: .name "dataclass" :: _ =>
    some (.ofNames ["dataclasses", "dataclass"])
  | _ => none

/-- The bases of a class up to their closing bracket, and the lexemes behind it. The count
bounds the number of steps. -/
def readBases : Nat → List Lexeme → Option (List Expression × List Lexeme)
  | 0, _ => none
  | _ + 1, .mark ")" :: rest => some ([], rest)
  | count + 1, lexemes => do
    let (base, rest) ← Expression.ofLexemes? lexemes
    match rest with
    | .mark ")" :: rest => return ([base], rest)
    | .mark "," :: rest =>
      let (others, rest) ← readBases count rest
      return (base :: others, rest)
    | _ => none

/-- The bases behind the name of a class, and the lexemes of its body on the same line. -/
def readHeader (lexemes : List Lexeme) : Option (List Expression × List Lexeme) := do
  let (bases, rest) ← match lexemes with
    | .mark "(" :: rest => readBases (rest.length + 1) rest
    | lexemes => some ([], lexemes)
  match rest with
  | .mark ":" :: body => return (bases, body)
  | _ => none

/-- The block with a field, and the value that it is assigned. -/
def withField (name : String) (lexemes : List Lexeme) (block : Block) : Option Block := do
  let (type, rest) ← Expression.ofLexemes? lexemes
  let block := { block with fields := (name, type) :: block.fields }
  match rest with
  | [] => return block
  | .mark "=" :: value =>
    return { block with members := (name, memberValue value) :: block.members }
  | _ => none

/-! ## Blocks -/

/-- The block with what a statement other than a class declares. -/
def withStatement (lexemes : List Lexeme) (block : Block) : Option Block :=
  match lexemes with
  | .name "from" :: rest => some (withImports rest block)
  | .name "import" :: rest =>
    some { block with imports := importedSpaces (betweenCommas rest) ++ block.imports }
  | [.name "raise", .name kind] => some { block with refusal := some (kind, "") }
  | [.name "raise", .name kind, .mark "(", .mark ")"] =>
    some { block with refusal := some (kind, "") }
  | [.name "raise", .name kind, .mark "(", .literal (.text message), .mark ")"] =>
    some { block with refusal := some (kind, message) }
  | .name name :: .mark ":" :: type =>
    if Expression.reservedWords.contains name then some block else withField name type block
  | .name name :: .mark "=" :: value =>
    if isVariable value then some { block with typeVariables := name :: block.typeVariables }
    else some { block with members := (name, memberValue value) :: block.members }
  | _ => some block

/-- The declarations of lines. `mark` is the mark of a record class in front of the next
class. The count bounds the number of steps. -/
def readBlock : Nat → Option Expression → List SourceLine → Option Block
  | 0, _, _ => none
  | _ + 1, _, [] => some {}
  | count + 1, mark, ⟨indentation, lexemes⟩ :: rest => do
    let inner := rest.takeWhile fun line => indentation < line.indentation
    let behind := rest.drop inner.length
    match lexemes with
    | .mark "@" :: next => readBlock count (mark <|> recordMark? next) rest
    | .name "class" :: .name name :: header =>
      let (bases, body) ← readHeader header
      let own ← readBlock count none (if body.isEmpty then inner else [⟨indentation, body⟩])
      let others ← readBlock count none behind
      let source : ClassSource := ⟨name, mark, bases, own.fields, own.members, own.classes⟩
      return { others with classes := source :: others.classes }
    | lexemes => withStatement lexemes (← readBlock count none behind)

/-- The block of a text. -/
def read? (text : String) : Option Block := do
  let lines := lines (← Lexeme.ofText? (Text.unified text))
  readBlock (2 * lines.length + 2) none lines

end ModuleText

/-- The module that a text declares. -/
def ModuleSource.ofText (text : String) : ModuleSource :=
  match ModuleText.read? text with
  | none => { name := "", refusal := some ("SyntaxError", "invalid syntax") }
  | some block =>
    { name := ""
      isDeferred := block.isDeferred
      refusal := block.refusal
      spaces := []
      imports := block.imports
      typeVariables := block.typeVariables
      classes := block.classes }

end TypeContracts
