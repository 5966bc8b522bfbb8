import TypeContracts.Config.Node

/-!
# Configuration documents

Reading the text of a configuration document: mappings and sequences by indentation or
between brackets, plain and quoted scalars, comments. A document that is not well-formed
has no tree.

Lines end with a line feed or with the line or paragraph separator of Unicode. Reading goes
from left to right over a cursor. Every construct takes at least one character, so that a
bound of steps taken from the length of the text is never met.
-/

set_option autoImplicit false

namespace TypeContracts.Document

/-! ## The cursor -/

/-- The rest of a text and the column that it starts at. -/
structure Cursor where
  rest : List Char
  column : Nat
deriving Inhabited

namespace Cursor

/-- The cursor behind a number of characters of the same line. -/
def forward (cursor : Cursor) (count : Nat) : Cursor :=
  ⟨cursor.rest.drop count, cursor.column + count⟩

/-- The cursor behind spaces. -/
def skipSpaces (cursor : Cursor) : Cursor :=
  cursor.forward (cursor.rest.takeWhile (· = ' ')).length

/-- The text ends here. -/
def atEnd (cursor : Cursor) : Bool := cursor.rest.isEmpty

end Cursor

/-- The character ends a line. -/
def endsLine (c : Char) : Bool := c = '\n' || c = '\u2028' || c = '\u2029'

/-- The character is a blank inside a line. -/
def isGap (c : Char) : Bool := c = ' ' || c = '\t'

/-- The character separates tokens, or the text ends. -/
def separates : List Char → Bool
  | [] => true
  | c :: _ => isGap c || endsLine c

/-- The characters start with a mark that has a separator behind it. -/
def startsMark (mark : Char) : List Char → Bool
  | c :: rest => c = mark && separates rest
  | [] => false

/-- A line of three equal marks stands here, at the start of a line. -/
def atDocumentMark (mark : Char) (cursor : Cursor) : Bool :=
  cursor.column = 0 && cursor.rest.take 3 = [mark, mark, mark] && separates (cursor.rest.drop 3)

/-- The document ends here: the text does, or another document starts. -/
def atDocumentEnd (cursor : Cursor) : Bool :=
  cursor.atEnd || atDocumentMark '-' cursor || atDocumentMark '.' cursor

/-- The cursor at the next token, and whether that is on a later line. Spaces, line ends and
comments lie between tokens. -/
def nextToken : Nat → Cursor → Bool → Cursor × Bool
  | 0, cursor, crossed => (cursor, crossed)
  | steps + 1, cursor, crossed =>
    let cursor := cursor.skipSpaces
    match cursor.rest with
    | [] => (cursor, crossed)
    | c :: rest =>
      if c = '#' then
        let comment := cursor.rest.takeWhile fun c => !endsLine c
        nextToken steps (cursor.forward comment.length) crossed
      else if endsLine c then nextToken steps ⟨rest, 0⟩ true
      else (cursor, crossed)

/-- The cursor at the next token, and whether it is on a later line. -/
def toToken (cursor : Cursor) : Cursor × Bool :=
  nextToken (2 * cursor.rest.length + 1) cursor false

/-! ## Scalars -/

/-- Folds line ends: a single line feed becomes a space, and of several characters the
first is dropped if it is a line feed. -/
def folded : List Char → List Char
  | [] => []
  | first :: rest =>
    if first ≠ '\n' then first :: rest
    else if rest.isEmpty then [' ']
    else rest

/-- Takes the line ends and the blanks behind each; the answer is the cursor behind the
last blank and the line ends. -/
def takeLineEnds : Nat → Cursor → List Char → (Char → Bool) → Cursor × List Char
  | 0, cursor, ends, _ => (cursor, ends)
  | steps + 1, cursor, ends, isBlank =>
    match cursor.rest with
    | [] => (cursor, ends)
    | c :: rest =>
      if endsLine c then
        let blanks := rest.takeWhile isBlank
        takeLineEnds steps ⟨rest.drop blanks.length, blanks.length⟩ (ends ++ [c]) isBlank
      else (cursor, ends)

/-- A chunk of a plain scalar: up to white space, a colon with a separator behind it, or,
between brackets, a bracket or a comma. -/
def plainChunk (inFlow : Bool) : List Char → List Char
  | [] => []
  | c :: rest =>
    let endsHere :=
      isGap c || endsLine c ||
        (c = ':' && (separates rest ||
          (inFlow && rest.head?.any fun d => [',', '[', ']', '\x7b', '\x7d'].contains d))) ||
        (inFlow && [',', '?', '[', ']', '\x7b', '\x7d'].contains c)
    if endsHere then [] else c :: plainChunk inFlow rest

/-- The rest of a plain scalar behind its first characters. A later line has to reach the
given column. -/
def plainRest (inFlow : Bool) (leastColumn : Nat) :
    Nat → Cursor → List Char → List Char × Cursor
  | 0, cursor, taken => (taken, cursor)
  | steps + 1, cursor, taken =>
    let chunk := plainChunk inFlow cursor.rest
    let taken := taken ++ chunk
    let behind := cursor.forward chunk.length
    let spaces := behind.skipSpaces
    let (next, lineEnds) := takeLineEnds spaces.rest.length spaces [] (· = ' ')
    let gap :=
      if lineEnds.isEmpty then List.replicate (spaces.column - behind.column) ' '
      else folded lineEnds
    let endsHere :=
      chunk.isEmpty || gap.isEmpty || (plainChunk inFlow next.rest).isEmpty ||
        next.rest.head? = some '#' ||
        (!lineEnds.isEmpty &&
          (atDocumentEnd next || (!inFlow && next.column < leastColumn)))
    if endsHere then (taken, behind) else plainRest inFlow leastColumn steps next (taken ++ gap)

/-- The character can begin a plain scalar. -/
def startsPlain (inFlow : Bool) : List Char → Bool
  | [] => false
  | c :: rest =>
    let indicators := ['-', '?', ':', ',', '[', ']', '\x7b', '\x7d', '#', '&', '*', '!', '|',
      '>', '\'', '"', '%', '@', '\x60']
    !(indicators.contains c || separates [c]) ||
      (!separates rest && (c = '-' || (!inFlow && (c = '?' || c = ':'))))

/-- The white space inside a quoted scalar, folded where it crosses lines. -/
def quotedSpace (cursor : Cursor) : List Char × Cursor :=
  let blanks := cursor.rest.takeWhile isGap
  let behind := cursor.forward blanks.length
  let (next, lineEnds) := takeLineEnds behind.rest.length behind [] isGap
  if lineEnds.isEmpty then (blanks, behind) else (folded lineEnds, next)

/-- The rest of a single-quoted scalar. -/
def singleQuoted : Nat → Cursor → List Char → Except DocumentFault (List Char × Cursor)
  | 0, _, _ => .error .malformed
  | steps + 1, cursor, taken =>
    match cursor.rest with
    | [] => .error .malformed
    | '\'' :: '\'' :: _ => singleQuoted steps (cursor.forward 2) (taken ++ ['\''])
    | '\'' :: _ => .ok (taken, cursor.forward 1)
    | c :: _ =>
      if separates [c] then
        let (space, next) := quotedSpace cursor
        if atDocumentEnd next then .error .malformed
        else singleQuoted steps next (taken ++ space)
      else singleQuoted steps (cursor.forward 1) (taken ++ [c])

/-- The characters that escapes of one letter stand for. -/
def letterEscapes : List (Char × Char) :=
  [('0', '\x00'), ('a', '\x07'), ('b', '\x08'), ('t', '\t'), ('\t', '\t'), ('n', '\n'),
   ('v', '\x0b'), ('f', '\x0c'), ('r', '\r'), ('e', '\x1b'), (' ', ' '), ('"', '"'),
   ('\\', '\\'), ('/', '/'), ('N', '\u0085'), ('_', '\u00a0'), ('L', '\u2028'),
   ('P', '\u2029')]

/-- How many hexadecimal digits an escape letter takes. -/
def escapeWidth : Char → Option Nat
  | 'x' => some 2
  | 'u' => some 4
  | 'U' => some 8
  | _ => none

/-- The greatest code that an escape may spell. -/
def greatestCode : Nat := 0x7FFFFFFF

/-- The character with a code in hexadecimal digits. -/
def codedChar (digits : List Char) (width : Nat) : Except DocumentFault Char :=
  let isHex (c : Char) : Bool := c.isDigit || ('a' ≤ c && c ≤ 'f') || ('A' ≤ c && c ≤ 'F')
  let code := Scalar.inBase 16 digits
  if digits.length < width || !digits.all isHex then .error .malformed
  else if greatestCode < code then .error .beyondCodes
  else if 0x10FFFF < code then .error .noCharacter
  else if code.isValidChar then .ok (Char.ofNat code)
  else .error .malformed

/-- The rest of a double-quoted scalar. -/
def doubleQuoted : Nat → Cursor → List Char → Except DocumentFault (List Char × Cursor)
  | 0, _, _ => .error .malformed
  | steps + 1, cursor, taken =>
    match cursor.rest with
    | [] => .error .malformed
    | '"' :: _ => .ok (taken, cursor.forward 1)
    | '\\' :: c :: rest =>
      if endsLine c then
        let (next, lineEnds) := takeLineEnds cursor.rest.length (cursor.forward 1) [] isGap
        if atDocumentEnd next then .error .malformed
        else doubleQuoted steps next (taken ++ lineEnds.drop 1)
      else
        match letterEscapes.find? (fun entry => entry.1 == c), escapeWidth c with
        | some (_, image), _ => doubleQuoted steps (cursor.forward 2) (taken ++ [image])
        | none, some width => do
          let image ← codedChar (rest.take width) width
          doubleQuoted steps (cursor.forward (2 + width)) (taken ++ [image])
        | none, none => .error .malformed
    | c :: _ =>
      if separates [c] then
        let (space, next) := quotedSpace cursor
        if atDocumentEnd next then .error .malformed
        else doubleQuoted steps next (taken ++ space)
      else doubleQuoted steps (cursor.forward 1) (taken ++ [c])

/-- The scalar at the cursor, with the cursor behind it. -/
def scalar (inFlow : Bool) (leastColumn : Nat) (cursor : Cursor) :
    Except DocumentFault (Node × Cursor) := do
  let steps := 2 * cursor.rest.length + 1
  match cursor.rest with
  | '\'' :: _ =>
    let (cs, next) ← singleQuoted steps (cursor.forward 1) []
    return (.quoted (String.ofList cs), next)
  | '"' :: _ =>
    let (cs, next) ← doubleQuoted steps (cursor.forward 1) []
    return (.quoted (String.ofList cs), next)
  | cs =>
    if startsPlain inFlow cs then
      let (taken, next) := plainRest inFlow leastColumn steps cursor []
      return (.plain (String.ofList taken), next)
    else throw .malformed

/-! ## Keys -/

/-- How far the colon of a key may be from its start. -/
def keyLimit : Nat := 1024

/-- The text between two cursors can be a key: it stays on one line and is not too long. -/
def canBeKey (start colon : Cursor) : Bool :=
  let length := start.rest.length - colon.rest.length
  length ≤ keyLimit && !(start.rest.take length).any endsLine

/-! ## Collections between brackets -/

mutual

/-- The node at the cursor, between brackets. -/
def flowValue : Nat → Cursor → Except DocumentFault (Node × Cursor)
  | 0, _ => .error .malformed
  | steps + 1, cursor =>
    if atDocumentEnd cursor then .error .malformed
    else
      match cursor.rest with
      | '[' :: _ => flowItems steps (toToken (cursor.forward 1)).1 []
      | '\x7b' :: _ => flowEntries steps (toToken (cursor.forward 1)).1 []
      | _ => scalar true 0 cursor

/-- The node behind a colon, which may be missing. -/
def flowMapped : Nat → Cursor → Except DocumentFault (Node × Cursor)
  | 0, _ => .error .malformed
  | steps + 1, cursor =>
    let next := (toToken cursor).1
    match next.rest with
    | c :: _ =>
      if c = ',' || c = ']' || c = '\x7d' then .ok (.plain "", next) else flowValue steps next
    | [] => .error .malformed

/-- The items of a sequence up to its bracket. An item may be a single entry of a
mapping. -/
def flowItems : Nat → Cursor → List Node → Except DocumentFault (Node × Cursor)
  | 0, _, _ => .error .malformed
  | steps + 1, cursor, items =>
    match cursor.rest with
    | ']' :: _ => .ok (.sequence items, cursor.forward 1)
    | _ => do
      let (value, next) ← flowValue steps cursor
      let next := (toToken next).1
      let (item, next) ← match next.rest with
        | ':' :: _ =>
          if canBeKey cursor next then do
            let (mapped, next) ← flowMapped steps (next.forward 1)
            pure (Node.mapping [(value, mapped)], (toToken next).1)
          else .error .malformed
        | _ => pure (value, next)
      match next.rest with
      | ',' :: _ => flowItems steps (toToken (next.forward 1)).1 (items ++ [item])
      | ']' :: _ => .ok (.sequence (items ++ [item]), next.forward 1)
      | _ => .error .malformed

/-- The entries of a mapping up to its bracket. -/
def flowEntries : Nat → Cursor → List (Node × Node) → Except DocumentFault (Node × Cursor)
  | 0, _, _ => .error .malformed
  | steps + 1, cursor, entries =>
    match cursor.rest with
    | '\x7d' :: _ => .ok (.mapping entries, cursor.forward 1)
    | _ => do
      let (key, next) ← flowValue steps cursor
      let next := (toToken next).1
      let (value, next) ← match next.rest with
        | ':' :: _ =>
          if canBeKey cursor next then do
            let (value, next) ← flowMapped steps (next.forward 1)
            pure (value, (toToken next).1)
          else .error .malformed
        | _ => pure (Node.plain "", next)
      let entries := entries ++ [(key, value)]
      match next.rest with
      | ',' :: _ => flowEntries steps (toToken (next.forward 1)).1 entries
      | '\x7d' :: _ => .ok (.mapping entries, next.forward 1)
      | _ => .error .malformed

end

/-! ## Collections by indentation -/

/-- The cursor at the colon that ends a key, if there is one behind spaces. -/
def keyColon? (cursor : Cursor) : Option Cursor :=
  let colon := cursor.skipSpaces
  if startsMark ':' colon.rest then some colon else none

/-- A scalar or a collection between brackets. -/
def compact (leastColumn : Nat) (cursor : Cursor) : Except DocumentFault (Node × Cursor) :=
  if cursor.rest.head?.any fun c => c = '[' || c = '\x7b' then
    flowValue (2 * cursor.rest.length + 2) cursor
  else scalar false leastColumn cursor

/-- The key at the cursor with the cursor behind its colon. -/
def key (column : Nat) (cursor : Cursor) : Except DocumentFault (Node × Cursor) := do
  let (key, next) ← compact (column + 1) cursor
  match keyColon? next with
  | some colon => if canBeKey cursor colon then return (key, colon.forward 1) else throw .malformed
  | none => throw .malformed

mutual

/-- The node at the cursor. `freely` tells that a collection by indentation may start
here, and `leastColumn` is the column that later lines of a scalar have to reach. -/
def blockValue (steps : Nat) (freely : Bool) (leastColumn : Nat) (cursor : Cursor) :
    Except DocumentFault (Node × Cursor) :=
  match steps with
  | 0 => .error .malformed
  | steps + 1 =>
    if startsMark '-' cursor.rest then
      if freely then blockItems steps cursor.column false cursor [] else .error .malformed
    else do
      let (node, next) ← compact leastColumn cursor
      match keyColon? next with
      | some colon =>
        if freely && canBeKey cursor colon then
          blockEntries steps cursor.column node (colon.forward 1) []
        else throw .malformed
      | none => return (node, next)
termination_by structural steps

/-- The node of a key in a mapping at a column; the cursor is behind the colon. -/
def blockMapped (steps : Nat) (column : Nat) (cursor : Cursor) :
    Except DocumentFault (Node × Cursor) :=
  match steps with
  | 0 => .error .malformed
  | steps + 1 =>
    let (next, crossed) := toToken cursor
    if next.atEnd || (crossed && atDocumentEnd next) then .ok (.plain "", cursor)
    else if !crossed then blockValue steps false (column + 1) next
    else if column < next.column then blockValue steps true (column + 1) next
    else if next.column = column && startsMark '-' next.rest then
      blockItems steps column true next []
    else .ok (.plain "", cursor)
termination_by structural steps

/-- The entries of a mapping at a column, from the value of a key on. -/
def blockEntries (steps : Nat) (column : Nat) (lastKey : Node) (cursor : Cursor)
    (entries : List (Node × Node)) : Except DocumentFault (Node × Cursor) :=
  match steps with
  | 0 => .error .malformed
  | steps + 1 => do
    let (value, next) ← blockMapped steps column cursor
    let entries := entries ++ [(lastKey, value)]
    let (token, crossed) := toToken next
    if atDocumentEnd token || (crossed && token.column < column) then
      return (.mapping entries, next)
    else if !crossed || column < token.column then throw .malformed
    else do
      let (nextKey, behind) ← key column token
      blockEntries steps column nextKey behind entries
termination_by structural steps

/-- The items of a sequence at a column; the cursor is at the mark of one. A sequence that
shares the column of a mapping ends where a key of that mapping follows. -/
def blockItems (steps : Nat) (column : Nat) (sharesColumn : Bool) (cursor : Cursor)
    (items : List Node) : Except DocumentFault (Node × Cursor) :=
  match steps with
  | 0 => .error .malformed
  | steps + 1 => do
    let behind := cursor.forward 1
    let (start, crossed) := toToken behind
    let (item, next) ←
      if start.atEnd || (crossed && (atDocumentEnd start || start.column ≤ column)) then
        pure (Node.plain "", behind)
      else blockValue steps true (column + 1) start
    let items := items ++ [item]
    let (token, crossed) := toToken next
    if atDocumentEnd token || (crossed && token.column < column) then
      return (.sequence items, next)
    else if !crossed || column < token.column then throw .malformed
    else if startsMark '-' token.rest then blockItems steps column sharesColumn token items
    else if sharesColumn then return (.sequence items, next)
    else throw .malformed
termination_by structural steps

end

/-! ## Documents -/

/-- The character may stand in a document. -/
def isAllowed (c : Char) : Bool :=
  let code := c.toNat
  code = 9 || code = 10 || code = 13 || (0x20 ≤ code && code ≤ 0x7E) || code = 0x85 ||
    (0xA0 ≤ code && code ≤ 0xFFFD) || 0x10000 ≤ code

/-- The cursor at the first token that is no mark of the end of a document. -/
def behindEndMarks : Nat → Cursor → Cursor
  | 0, cursor => cursor
  | steps + 1, cursor =>
    let token := (toToken cursor).1
    if atDocumentMark '.' token then behindEndMarks steps (token.forward 3) else token

/-- Nothing but the end of the document follows. -/
def endsDocument (cursor : Cursor) : Bool :=
  (behindEndMarks (cursor.rest.length + 1) cursor).atEnd

/-- The tree of a document without its start mark. A document whose start is not marked
cannot be empty in front of an end mark. -/
def body (isMarked : Bool) (cursor : Cursor) : Except DocumentFault Node := do
  let (token, crossed) := toToken cursor
  if atDocumentEnd token then
    if token.atEnd || (isMarked && endsDocument token) then return .plain ""
    else throw .malformed
  else
    let (node, next) ← blockValue (4 * token.rest.length + 4) (!isMarked || crossed) 0 token
    if endsDocument next then return node else throw .malformed

/-- The characters of a text without a mark of the byte order, every line feed as such. -/
def characters (text : String) : List Char :=
  let cs := match text.toList with
    | '\uFEFF' :: rest => rest
    | cs => cs
  cs.map fun c => if c = '\u0085' then '\n' else c

/-- The tree of a document. A line of the text ends with one character. -/
def tree (text : String) : Except DocumentFault Node :=
  let cs := characters text
  if !cs.all isAllowed then .error .malformed
  else
    let token := (toToken ⟨cs, 0⟩).1
    if atDocumentMark '-' token then body true (token.forward 3) else body false ⟨cs, 0⟩

/-- The value of a document. -/
def read (text : String) : Except DocumentFault Data := do (← tree text).value?

end TypeContracts.Document
