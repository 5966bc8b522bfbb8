import TypeContracts.Source.Lexeme

/-!
# Reading annotations

An annotation is read from its lexemes. An operator that binds tighter is read first, and
operators of one strength from left to right, powers from right to left. A comma makes a
tuple where one is expected: inside brackets, and at the top of a text.
-/

set_option autoImplicit false

namespace TypeContracts

namespace Expression

/-! ## Words -/

/-- The words that are no names. -/
def reservedWords : List String :=
  ["and", "as", "assert", "async", "await", "break", "class", "continue", "def", "del", "elif",
   "else", "except", "finally", "for", "from", "global", "if", "import", "in", "is", "lambda",
   "nonlocal", "not", "or", "pass", "raise", "return", "try", "while", "with", "yield"]

/-- A literal with its sign turned. -/
def negated? : Scalar → Option Scalar
  | .integer value => some (.integer (-value))
  | .real value => some (.real value.negated)
  | _ => none

/-- The operators in front of an operand, but the one that denies it. -/
def turnOf? (mark : String) : Option Turn :=
  [Turn.negate, .keep, .invert].find? (·.text = mark)

/-- The operator that a mark spells, if it binds with the given strength. -/
def operatorOf? (level : Nat) (mark : String) : Option Operator :=
  Operator.leftward.find? fun operator => operator.level = level && operator.text = mark

/-- The comparison at the start of lexemes, and the lexemes behind it. -/
def comparisonAt? : List Lexeme → Option (Comparison × List Lexeme)
  | .name "is" :: .name "not" :: rest => some (.other, rest)
  | .name "is" :: rest => some (.same, rest)
  | .name "not" :: .name "in" :: rest => some (.outside, rest)
  | .name "in" :: rest => some (.inside, rest)
  | .mark mark :: rest =>
    ([Comparison.equal, .unequal, .below, .atMost, .above, .atLeast].find? (·.text = mark)).map
      fun comparison => (comparison, rest)
  | _ => none

/-- Operands with a word between them, or the only one. -/
def joined (join : List Expression → Expression) : List Expression → Expression
  | [one] => one
  | several => join several

/-! ## From lexemes -/

mutual

/-- An expression, or a tuple where commas follow it. The count bounds the number of steps,
here and below. -/
def readTuple : Nat → List Lexeme → Option (Expression × List Lexeme)
  | 0, _ => none
  | count + 1, lexemes => do
    let (first, rest) ← readChoice count lexemes
    match rest with
    | .mark "," :: rest =>
      let (others, rest) ← readItems count rest
      return (.display .tuple (first :: others), rest)
    | rest => return (first, rest)

/-- Expressions with commas between them and perhaps behind them, as far as they go. -/
def readItems : Nat → List Lexeme → Option (List Expression × List Lexeme)
  | 0, _ => none
  | count + 1, lexemes =>
    match readChoice count lexemes with
    | none => some ([], lexemes)
    | some (first, .mark "," :: rest) => do
      let (others, rest) ← readItems count rest
      return (first :: others, rest)
    | some (first, rest) => some ([first], rest)

/-- An expression, perhaps with a condition and another expression behind it. -/
def readChoice : Nat → List Lexeme → Option (Expression × List Lexeme)
  | 0, _ => none
  | count + 1, lexemes => do
    let (first, rest) ← readWords count true lexemes
    match rest with
    | .name "if" :: rest =>
      let (condition, rest) ← readWords count true rest
      match rest with
      | .name "else" :: rest =>
        let (other, rest) ← readChoice count rest
        return (.conditional condition first other, rest)
      | _ => none
    | rest => return (first, rest)

/-- Operands with one of the words between them that join truth values. -/
def readWords : Nat → Bool → List Lexeme → Option (Expression × List Lexeme)
  | 0, _, _ => none
  | count + 1, true, lexemes => do
    let (first, rest) ← readWords count false lexemes
    let (others, rest) ← readMore count "or" rest
    return (joined .disjunction (first :: others), rest)
  | count + 1, false, lexemes => do
    let (first, rest) ← readDenied count lexemes
    let (others, rest) ← readMore count "and" rest
    return (joined .conjunction (first :: others), rest)

/-- The further operands behind a word. -/
def readMore : Nat → String → List Lexeme → Option (List Expression × List Lexeme)
  | 0, _, _ => none
  | count + 1, word, .name found :: lexemes =>
    if found = word then do
      let (operand, rest) ←
        if word = "or" then readWords count false lexemes else readDenied count lexemes
      let (others, rest) ← readMore count word rest
      return (operand :: others, rest)
    else some ([], .name found :: lexemes)
  | _ + 1, _, lexemes => some ([], lexemes)

/-- A comparison, perhaps denied. A chain of comparisons holds if each of them does. -/
def readDenied : Nat → List Lexeme → Option (Expression × List Lexeme)
  | 0, _ => none
  | count + 1, .name "not" :: lexemes => do
    let (operand, rest) ← readDenied count lexemes
    return (.turned .deny operand, rest)
  | count + 1, lexemes => do
    let (first, rest) ← readOperands count 1 lexemes
    let (others, rest) ← readCompared count first rest
    return (if others.isEmpty then first else joined .conjunction others, rest)

/-- The comparisons of an operand with those behind it. -/
def readCompared : Nat → Expression → List Lexeme → Option (List Expression × List Lexeme)
  | 0, _, _ => none
  | count + 1, left, lexemes =>
    match comparisonAt? lexemes with
    | none => some ([], lexemes)
    | some (comparison, rest) => do
      let (right, rest) ← readOperands count 1 rest
      let (others, rest) ← readCompared count right rest
      return (.compared comparison left right :: others, rest)

/-- Operands with operators of the given strength between them, or stronger ones. -/
def readOperands : Nat → Nat → List Lexeme → Option (Expression × List Lexeme)
  | 0, _, _ => none
  | count + 1, level, lexemes =>
    if 6 < level then readTurned count lexemes
    else do
      let (first, rest) ← readOperands count (level + 1) lexemes
      readCombined count level first rest

/-- An operand combined with those behind it, from left to right. -/
def readCombined : Nat → Nat → Expression → List Lexeme → Option (Expression × List Lexeme)
  | 0, _, _, _ => none
  | count + 1, level, left, .mark mark :: lexemes =>
    match operatorOf? level mark with
    | none => some (left, .mark mark :: lexemes)
    | some operator => do
      let (right, rest) ← readOperands count (level + 1) lexemes
      readCombined count level (.combined operator left right) rest
  | _ + 1, _, left, lexemes => some (left, lexemes)

/-- An operand with operators in front of it, or a power. The sign of a literal is read
as a part of it. -/
def readTurned : Nat → List Lexeme → Option (Expression × List Lexeme)
  | 0, _ => none
  | count + 1, .mark mark :: lexemes =>
    match turnOf? mark with
    | none => readPower count (.mark mark :: lexemes)
    | some turn => do
      let (operand, rest) ← readTurned count lexemes
      match turn, operand with
      | .negate, .scalar value =>
        return (((negated? value).map .scalar).getD (.turned turn operand), rest)
      | turn, operand => return (.turned turn operand, rest)
  | count + 1, lexemes => readPower count lexemes

/-- An operand, perhaps with a power. -/
def readPower : Nat → List Lexeme → Option (Expression × List Lexeme)
  | 0, _ => none
  | count + 1, lexemes => do
    let (base, rest) ← readPrimary count lexemes
    match rest with
    | .mark "**" :: rest =>
      let (exponent, rest) ← readTurned count rest
      return (.combined .power base exponent, rest)
    | rest => return (base, rest)

/-- A name, a literal, or something in brackets, with what is behind it. Literal texts
side by side are one. -/
def readPrimary : Nat → List Lexeme → Option (Expression × List Lexeme)
  | 0, _ => none
  | count + 1, lexemes =>
    match lexemes with
    | .name name :: rest =>
      if reservedWords.contains name then none else readBehind count (.named name) rest
    | .literal (.text first) :: .literal (.text second) :: rest =>
      readPrimary count (.literal (.text (first ++ second)) :: rest)
    | .literal value :: rest => readBehind count (.scalar value) rest
    | .ellipsis :: rest => readBehind count .ellipsis rest
    | .mark "(" :: .mark ")" :: rest => readBehind count (.display .tuple []) rest
    | .mark "(" :: rest => do
      let (inner, rest) ← readTuple count rest
      match inner, rest with
      | .display .tuple items, .mark ")" :: rest =>
        readBehind count (.display .tuple items) rest
      | inner, .mark ")" :: rest => readBehind count (.enclosed inner) rest
      | _, _ => none
    | .mark "[" :: rest => do
      let (items, rest) ← readItems count rest
      match rest with
      | .mark "]" :: rest => readBehind count (.display .list items) rest
      | _ => none
    | .mark "\x7b" :: rest => do
      let (grouping, items, rest) ← readBraced count rest
      readBehind count (.display grouping items) rest
    | _ => none

/-- The items of a set or the entries of a map up to the closing brace. -/
def readBraced : Nat → List Lexeme → Option (Grouping × List Expression × List Lexeme)
  | 0, _ => none
  | _ + 1, .mark "\x7d" :: rest => some (.map, [], rest)
  | count + 1, lexemes => do
    let (items, rest) ← readItems count lexemes
    match items, rest with
    | _ :: _, .mark "\x7d" :: rest => return (.set, items, rest)
    | [key], .mark ":" :: rest =>
      let (value, rest) ← readChoice count rest
      match rest with
      | .mark "\x7d" :: rest => return (.map, [key, value], rest)
      | .mark "," :: rest =>
        let (grouping, others, rest) ← readBraced count rest
        if grouping = .map then return (.map, key :: value :: others, rest) else none
      | _ => none
    | _, _ => none

/-- Attributes, brackets and calls behind an expression. -/
def readBehind : Nat → Expression → List Lexeme → Option (Expression × List Lexeme)
  | 0, _, _ => none
  | count + 1, head, lexemes =>
    match lexemes with
    | .mark "." :: .name name :: rest =>
      if reservedWords.contains name then none else readBehind count (.attribute head name) rest
    | .mark "[" :: rest => do
      let (index, rest) ← readTuple count rest
      match rest with
      | .mark "]" :: rest => readBehind count (.subscript head index) rest
      | _ => none
    | .mark "(" :: rest => do
      let (arguments, rest) ← readItems count rest
      match rest with
      | .mark ")" :: rest => readBehind count (.call head arguments) rest
      | _ => none
    | lexemes => some (head, lexemes)

end

/-! ## From texts -/

/-- Enough steps for reading lexemes: each takes part in no more than one step of each
strength. -/
def stepsFor (lexemes : List Lexeme) : Nat := 24 * (lexemes.length + 1)

/-- The expression at the start of lexemes, and the lexemes behind it. -/
def ofLexemes? (lexemes : List Lexeme) : Option (Expression × List Lexeme) :=
  readChoice (stepsFor lexemes) lexemes

/-- A text ends with a line of blanks that was begun. -/
def hasOpenLine (text : String) : Bool :=
  match Text.cutLast? '\n' text.toList with
  | some (_, last) => !last.isEmpty && last.all Lexeme.isBlank
  | none => false

/-- The expression that a text of one line spells. -/
def ofText? (text : String) : Option Expression :=
  match hasOpenLine text, Lexeme.ofText? text with
  | false, some (.line 0 :: lexemes) =>
    match readTuple (stepsFor lexemes) lexemes with
    | some (expression, []) => some expression
    | _ => none
  | _, _ => none

/-! ## Words of the library -/

/-- The spaces of the library with the words that stand for a name of theirs. -/
def libraryWords : List (String × List String) :=
  [("typing",
    ["Any", "Optional", "Union", "List", "Dict", "Tuple", "Set", "FrozenSet", "Sequence",
     "MutableSequence", "Iterable", "Collection", "AbstractSet", "MutableSet", "Mapping",
     "MutableMapping", "Deque", "DefaultDict", "OrderedDict", "Annotated", "ClassVar", "Final",
     "Literal", "Callable", "Type", "Generic", "Iterator", "Awaitable", "Protocol"]),
   ("datetime", ["datetime", "date", "time", "timedelta"]), ("decimal", ["Decimal"]),
   ("uuid", ["UUID"]), ("dataclasses", ["InitVar"]), ("collections", ["deque", "defaultdict"])]

/-- What a word of the library stands for. -/
def ofLibraryWord? (word : String) : Option Expression :=
  match libraryWords.find? fun (_, words) => words.contains word with
  | some (space, _) => some (inSpace space [word])
  | none =>
    if word = "OrderedDict_" then some (inSpace "collections" ["OrderedDict"])
    else (Text.dropStart? "abc." word).map fun name => inSpace "collections" ["abc", name]

/-- A single word of an annotation: a word of the library, or an expression. -/
def ofWord (word : String) : Expression :=
  ((ofLibraryWord? word) <|> (ofText? word)).getD (ofNames (Text.cut '.' word))

end Expression

end TypeContracts
