import TypeContracts.Number.Binary64
import TypeContracts.Text.Identifier
import TypeContracts.Text.Normal
import TypeContracts.Text.Quoted

/-!
# Annotation expressions

Annotations as they are written: names, attributes, brackets, bars between alternatives,
and literals. A string in an annotation can hold any expression, so operators, calls and
displays of several values are among them. An annotation has two texts: `Expression.text` is
how it is written, and `Expression.canonical` how a deferred annotation is kept, with only
the round brackets that its meaning needs.
-/

set_option autoImplicit false

namespace TypeContracts

/-! ## Literals and operators -/

/-- A literal. A text is an annotation that is read later. -/
inductive Scalar where
  | text (value : String)
  | integer (value : Int)
  | flag (value : Bool)
  | real (value : Binary64)
deriving DecidableEq, Repr

/-- The spelling of a literal. -/
def Scalar.spelling : Scalar → String
  | .text value => Text.quoted value
  | .integer value => toString value
  | .flag value => if value then "True" else "False"
  | .real value => value.text

/-- Several values written as one. -/
inductive Grouping where
  | tuple
  | list
  | set
  | map
deriving DecidableEq, Repr

/-- The name of the sort of value that several values make. -/
def Grouping.sort : Grouping → String
  | .tuple => "tuple"
  | .list => "list"
  | .set => "set"
  | .map => "dict"

/-- An operator in front of its operand. -/
inductive Turn where
  | negate
  | keep
  | invert
  | deny
deriving DecidableEq, Repr

/-- The spelling of an operator in front of its operand. -/
def Turn.text : Turn → String
  | .negate => "-"
  | .keep => "+"
  | .invert => "~"
  | .deny => "not "

/-- An operator between its operands. -/
inductive Operator where
  | either
  | exclusive
  | both
  | shiftLeft
  | shiftRight
  | add
  | subtract
  | multiply
  | divide
  | divideDown
  | remainder
  | product
  | power
deriving DecidableEq, Repr

namespace Operator

/-- The spelling of an operator. -/
def text : Operator → String
  | .either => "|"
  | .exclusive => "^"
  | .both => "&"
  | .shiftLeft => "<<"
  | .shiftRight => ">>"
  | .add => "+"
  | .subtract => "-"
  | .multiply => "*"
  | .divide => "/"
  | .divideDown => "//"
  | .remainder => "%"
  | .product => "@"
  | .power => "**"

/-- How tightly an operator binds its operands. -/
def level : Operator → Nat
  | .either => 1
  | .exclusive => 2
  | .both => 3
  | .shiftLeft | .shiftRight => 4
  | .add | .subtract => 5
  | .multiply | .divide | .divideDown | .remainder | .product => 6
  | .power => 8

/-- All operators but the power, which binds its operands in another way. -/
def leftward : List Operator :=
  [.either, .exclusive, .both, .shiftLeft, .shiftRight, .add, .subtract, .multiply, .divide,
    .divideDown, .remainder, .product]

end Operator

/-- A comparison of two values. -/
inductive Comparison where
  | equal
  | unequal
  | below
  | atMost
  | above
  | atLeast
  | same
  | other
  | inside
  | outside
deriving DecidableEq, Repr

/-- The spelling of a comparison. -/
def Comparison.text : Comparison → String
  | .equal => "=="
  | .unequal => "!="
  | .below => "<"
  | .atMost => "<="
  | .above => ">"
  | .atLeast => ">="
  | .same => "is"
  | .other => "is not"
  | .inside => "in"
  | .outside => "not in"

/-! ## Expressions -/

/-- An annotation as it is written. The keys and the values of a map alternate. -/
inductive Expression where
  | named (name : String)
  | attribute (owner : Expression) (name : String)
  | subscript (head index : Expression)
  | call (head : Expression) (arguments : List Expression)
  | scalar (value : Scalar)
  | ellipsis
  | enclosed (inner : Expression)
  | display (grouping : Grouping) (items : List Expression)
  | turned (turn : Turn) (operand : Expression)
  | combined (operator : Operator) (left right : Expression)
  | compared (comparison : Comparison) (left right : Expression)
  | conjunction (operands : List Expression)
  | disjunction (operands : List Expression)
  | conditional (condition yes no : Expression)
deriving Repr, Inhabited

namespace Expression

/-! ## Building -/

/-- The arguments in brackets: none or several are written as one tuple. -/
def applied (head : Expression) (arguments : List Expression) : Expression :=
  match arguments with
  | [argument] => .subscript head argument
  | arguments => .subscript head (.display .tuple arguments)

/-- Alternatives with bars between them, in round brackets. -/
def alternatives : List Expression → Expression
  | [] => .display .tuple []
  | first :: rest => .enclosed (rest.foldl (.combined .either) first)

/-- A string that holds the text of an annotation. -/
def quoted (text : String) : Expression := .scalar (.text text)

/-- The chain of attributes that names with points between them stand for. -/
def ofNames (names : List String) : Expression :=
  match names with
  | [] => .named ""
  | first :: rest => rest.foldl .attribute (.named first)

/-- The name that a contract module has for a space of the library, unless it is written as
a text. The underscore keeps it apart from the names of contracts. -/
def spaceName (space : String) : String := "_" ++ space

/-- The chain of attributes that starts at a space of the library. -/
def inSpace (space : String) (names : List String) : Expression :=
  ofNames (spaceName space :: names)

/-- The bracketed part of a text, where the place around it binds tighter than its own
parts. -/
def bracketed (needed : Bool) (text : String) : String :=
  if needed then "(" ++ text ++ ")" else text

/-! ## Texts -/

/-- A tuple without round brackets. -/
def bareTuple : List String → String
  | [] => "()"
  | [one] => one ++ ","
  | several => Text.join ", " several

/-- Parts that alternate between keys and values, in the form of entries. -/
def entryTexts : List String → List String
  | key :: value :: rest => (key ++ ": " ++ value) :: entryTexts rest
  | rest => rest

/-- Parts written as one value. -/
def groupText (grouping : Grouping) (parts : List String) : String :=
  match grouping with
  | .tuple => bracketed (!parts.isEmpty) (bareTuple parts)
  | .list => "[" ++ Text.join ", " parts ++ "]"
  | .set => "\x7b" ++ Text.join ", " parts ++ "\x7d"
  | .map => "\x7b" ++ Text.join ", " (entryTexts parts) ++ "\x7d"

mutual

/-- The text of an expression in a place that binds its parts with the given strength. The
round brackets that are written stay, or are left to the needs of the place. -/
def textAt (keepsBrackets : Bool) (place : Nat) : Expression → String
  | .named name => name
  | .attribute owner name => owner.textAt keepsBrackets 20 ++ "." ++ name
  | .subscript head (.display .tuple items) =>
    head.textAt keepsBrackets 20 ++ "[" ++ bareTuple (textsAt keepsBrackets 1 items) ++ "]"
  | .subscript head index =>
    head.textAt keepsBrackets 20 ++ "[" ++ index.textAt keepsBrackets 0 ++ "]"
  | .call head arguments =>
    head.textAt keepsBrackets 20 ++ "(" ++ Text.join ", " (textsAt keepsBrackets 1 arguments) ++ ")"
  | .scalar value => value.spelling
  | .ellipsis => "..."
  | .enclosed inner =>
    if keepsBrackets then "(" ++ inner.textAt keepsBrackets 0 ++ ")"
    else inner.textAt keepsBrackets place
  | .display grouping items => groupText grouping (textsAt keepsBrackets 1 items)
  | .turned .deny operand =>
    bracketed (4 < place) (Turn.deny.text ++ operand.textAt keepsBrackets 4)
  | .turned turn operand => bracketed (17 < place) (turn.text ++ operand.textAt keepsBrackets 17)
  | .combined .power left right =>
    bracketed (18 < place) (left.textAt keepsBrackets 19 ++ " ** " ++ right.textAt keepsBrackets 18)
  | .combined operator left right =>
    let own := 10 + operator.level
    bracketed (own < place)
      (left.textAt keepsBrackets own ++ " " ++ operator.text ++ " " ++
        right.textAt keepsBrackets (own + 1))
  | .compared comparison left right =>
    bracketed (5 < place)
      (left.textAt keepsBrackets 6 ++ " " ++ comparison.text ++ " " ++
        right.textAt keepsBrackets 6)
  | .conjunction operands =>
    bracketed (3 < place) (Text.join " and " (textsAt keepsBrackets 4 operands))
  | .disjunction operands =>
    bracketed (2 < place) (Text.join " or " (textsAt keepsBrackets 3 operands))
  | .conditional condition yes no =>
    bracketed (1 < place)
      (yes.textAt keepsBrackets 2 ++ " if " ++ condition.textAt keepsBrackets 2 ++ " else " ++
        no.textAt keepsBrackets 1)

/-- The texts of several expressions in such a place. -/
def textsAt (keepsBrackets : Bool) (place : Nat) : List Expression → List String
  | [] => []
  | expression :: rest =>
    expression.textAt keepsBrackets place :: textsAt keepsBrackets place rest

end

/-- The text of an annotation as it is written. -/
def text (expression : Expression) : String := expression.textAt true 0

/-! ## Names -/

mutual

/-- An expression with all its names changed. -/
def mapNames (change : String → String) : Expression → Expression
  | .named name => .named (change name)
  | .attribute owner name => .attribute (owner.mapNames change) (change name)
  | .subscript head index => .subscript (head.mapNames change) (index.mapNames change)
  | .call head arguments => .call (head.mapNames change) (mapAll change arguments)
  | .scalar value => .scalar value
  | .ellipsis => .ellipsis
  | .enclosed inner => .enclosed (inner.mapNames change)
  | .display grouping items => .display grouping (mapAll change items)
  | .turned turn operand => .turned turn (operand.mapNames change)
  | .combined operator left right =>
    .combined operator (left.mapNames change) (right.mapNames change)
  | .compared comparison left right =>
    .compared comparison (left.mapNames change) (right.mapNames change)
  | .conjunction operands => .conjunction (mapAll change operands)
  | .disjunction operands => .disjunction (mapAll change operands)
  | .conditional condition yes no =>
    .conditional (condition.mapNames change) (yes.mapNames change) (no.mapNames change)

/-- Expressions with all their names changed. -/
def mapAll (change : String → String) : List Expression → List Expression
  | [] => []
  | expression :: rest => expression.mapNames change :: mapAll change rest

end

/-- The text that a deferred annotation is kept as: its names in their normal form, and
only the round brackets that its meaning needs. -/
def canonical (expression : Expression) : String :=
  (expression.mapNames Text.normal).textAt false 0

/-- A character that can only stand in a name; every character outside ASCII counts as one. -/
def isNameChar (c : Char) : Bool := c.isAlphanum || c = '_' || 128 ≤ c.toNat

end Expression

end TypeContracts
