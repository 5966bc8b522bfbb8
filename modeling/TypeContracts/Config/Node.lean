import TypeContracts.Config.Scalar

/-!
# Document trees

What a document is made of before its scalars are given a meaning: plain and quoted
scalars, sequences, and mappings whose entries stand as written. A mapping may take
entries from others under the key `<<`; entries of its own come before those.

A tree has a value (`value?`) if every plain scalar has a meaning, every key is a scalar,
and entries are taken from mappings only. Trees are examined from the root down, level by
level, so that of several faults the outermost is told.
-/

set_option autoImplicit false

namespace TypeContracts

/-- A tree of scalars, sequences and mappings. -/
inductive Node where
  | plain (word : String)
  | quoted (text : String)
  | sequence (items : List Node)
  | mapping (entries : List (Node × Node))
deriving Repr, Inhabited

namespace Node

/-- The node is a scalar, and so can be a key. -/
def isScalar : Node → Bool
  | .plain _ => true
  | .quoted _ => true
  | _ => false

/-- The key under which a mapping takes entries from others. -/
def isMergeKey : Node → Bool
  | .plain word => word = Scalar.mergeMark
  | _ => false

/-- The meaning of a key; the mark of a value is text here. -/
def keyMeaning : Node → Except DocumentFault Data
  | .plain word => if word = Scalar.valueMark then .ok (.text word) else Scalar.meaning word
  | .quoted text => .ok (.text text)
  | _ => .error .malformed

/-! ## Entries of a mapping -/

mutual

/-- The entries that a mapping takes from others, and its own. -/
def parted : List (Node × Node) →
    Except DocumentFault (List (Node × Node) × List (Node × Node))
  | [] => .ok ([], [])
  | (key, value) :: rest => do
    let (given, own) ← parted rest
    if key.isMergeKey then return ((← taken value) ++ given, own)
    else return (given, (key, value) :: own)

/-- The entries that a value gives to a mapping: a mapping gives all it has, a sequence of
mappings those of each, the first of them last. -/
def taken : Node → Except DocumentFault (List (Node × Node))
  | .mapping entries => do
    let (given, own) ← parted entries
    return given ++ own
  | .sequence items => takenFromAll items
  | _ => .error .malformed

/-- The entries that mappings give, those of the first mapping last. -/
def takenFromAll : List Node → Except DocumentFault (List (Node × Node))
  | [] => .ok []
  | .mapping entries :: rest => do
    let (given, own) ← parted entries
    return (← takenFromAll rest) ++ given ++ own
  | _ :: _ => .error .malformed

end

/-- The entries of a mapping, those taken from others in front. -/
def spread (entries : List (Node × Node)) : Except DocumentFault (List (Node × Node)) :=
  taken (.mapping entries)

/-! ## Faults -/

/-- A node in its place passes if it is a collection or has a meaning. The answer is the
collections to look into. -/
def examineValue : Node → Except DocumentFault (List Node)
  | .plain word => (Scalar.meaning word).map fun _ => []
  | .quoted _ => .ok []
  | node => .ok [node]

/-- Looks into a collection. The answer is the collections inside it. -/
def examineInside : Node → Except DocumentFault (List Node)
  | .sequence items => return (← items.mapM examineValue).flatten
  | .mapping entries => do
    let inside ← (← spread entries).mapM fun (key, value) => do
      let _ ← keyMeaning key
      examineValue value
    return inside.flatten
  | _ => .ok []

/-- Looks into the collections of a level, and then into those of the next. -/
def examineLevels : Nat → List Node → Except DocumentFault Unit
  | 0, _ => .ok ()
  | _, [] => .ok ()
  | levels + 1, nodes => do examineLevels levels (← nodes.mapM examineInside).flatten

mutual

/-- How many levels a tree has. -/
def levels : Node → Nat
  | .plain _ => 0
  | .quoted _ => 0
  | .sequence items => levelsOfItems items + 1
  | .mapping entries => levelsOfEntries entries + 1

/-- How many levels the deepest of several trees has. -/
def levelsOfItems : List Node → Nat
  | [] => 0
  | node :: rest => max node.levels (levelsOfItems rest)

/-- How many levels the deepest value of several entries has. -/
def levelsOfEntries : List (Node × Node) → Nat
  | [] => 0
  | (_, value) :: rest => max value.levels (levelsOfEntries rest)

end

/-- The first fault that keeps a tree from having a value. -/
def examine (node : Node) : Except DocumentFault Unit := do
  examineLevels node.levels (← examineValue node)

/-! ## Values -/

mutual

/-- The value of a tree without faults. -/
def data : Node → Data
  | .plain word => (Scalar.meaning word).toOption.getD .null
  | .quoted text => .text text
  | .sequence items => .list (datas items)
  | .mapping entries =>
    let (taken, own) := entryData entries
    .map ((taken ++ own).foldl (fun entries entry => Data.insert entries entry.1 entry.2) [])

/-- The values of several trees. -/
def datas : List Node → List Data
  | [] => []
  | node :: rest => node.data :: datas rest

/-- The entries that a mapping takes from others, and its own. -/
def entryData : List (Node × Node) → List (Data × Data) × List (Data × Data)
  | [] => ([], [])
  | (key, value) :: rest =>
    let (taken, own) := entryData rest
    if key.isMergeKey then
      let given := match value.data with
        | .map entries => entries
        | .list items => items.reverse.flatMap Data.entries
        | _ => []
      (given ++ taken, own)
    else (taken, (key.keyMeaning.toOption.getD .null, value.data) :: own)

end

/-- The value of a tree. -/
def value? (node : Node) : Except DocumentFault Data := node.examine.map fun _ => node.data

end Node

end TypeContracts
