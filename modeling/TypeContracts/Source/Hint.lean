import TypeContracts.Source.Evaluation

/-!
# Reading deferred annotations

An annotation that is a text, or has references in the place of types inside, is read when
the annotations of a class are asked for. `World.hints` reads them in the module of each
class along the lineage, and drops the notes of annotated types. A text that is met again
while it is read stays a reference.
-/

set_option autoImplicit false

namespace TypeContracts

namespace Form

/-- How the text of a reference is read at a place, with the spelling of the text. -/
abbrev Reader := Place → String → String → Formed

mutual

/-- A form with its references replaced by what is read from them. Texts are references too
in the brackets of a library class. -/
def resolved (read : Reader) : Form → Formed
  | .atom (.forward text spelling) => read .argument text spelling
  | .atom a => .ok (.atom a)
  | .generic head arguments => do
    return .generic head
      (← if isPlainHead head then resolvedArguments read arguments else resolvedAll read arguments)
  | .union barred options => do unionOf barred (← resolvedAll read options)
  | .annotated (.atom (.forward text spelling)) notes => do
    return annotatedOf (← read .field text spelling) notes
  | .annotated type notes => do return annotatedOf (← type.resolved read) notes
  | .initVariable type => .ok (.initVariable type)
  | .group grouping items => .ok (.group grouping items)

/-- Forms with their references replaced. -/
def resolvedAll (read : Reader) : List Form → Except AnnotationFault (List Form)
  | [] => .ok []
  | form :: rest => do
    let form ← form.resolved read
    return form :: (← resolvedAll read rest)

/-- The arguments of a library class with their texts and references replaced. -/
def resolvedArguments (read : Reader) : List Form → Except AnnotationFault (List Form)
  | [] => .ok []
  | .atom (.scalar (.text text)) :: rest => do
    let form ← match ← reference text (Text.quoted text) with
      | .atom (.forward text spelling) => read .argument text spelling
      | form => pure form
    return form :: (← resolvedArguments read rest)
  | form :: rest => do
    let form ← form.resolved read
    return form :: (← resolvedArguments read rest)

end

mutual

/-- A form without the notes of annotated types. -/
def plain : Form → Formed
  | .atom a => .ok (.atom a)
  | .generic head arguments => do return .generic head (← plainAll arguments)
  | .union barred options => do unionOf barred (← plainAll options)
  | .annotated type _ => type.plain
  | .initVariable type => .ok (.initVariable type)
  | .group grouping items => .ok (.group grouping items)

/-- Forms without the notes of annotated types. -/
def plainAll : List Form → Except AnnotationFault (List Form)
  | [] => .ok []
  | form :: rest => do
    let form ← form.plain
    return form :: (← plainAll rest)

end

/-- The first part of a form behind a star. -/
def firstPart : Form → Formed
  | .group _ (first :: _) => .ok first
  | .group _ [] => .error (.outOfRange "tuple")
  | form => .error (.noStarred form.sort)

end Form

namespace World

/-- The rule for what a reference stands for. -/
def referenceRule : String := "Forward references must evaluate to types."

/-- What is read from a text in the place of a type, with the references in it read in
turn. A text that is read from a text has its place. The texts that are being read stay
references, and the count bounds how many there are. -/
def read (world : World) (names : Lookup) : Nat → List String → Form.Reader
  | 0, _, _, _, _ => .error .unread
  | count + 1, active, place, text, spelling =>
    if active.contains text then .ok (.atom (.forward text spelling))
    else
      match Form.referenced? text with
      | none => .error (.notAnExpression text)
      | some expression => do
        let value ← world.evaluate names expression
        let form ← if Text.startsWith "*" text then value.firstPart else pure value
        let readInside := world.read names count (text :: active)
        match form, ← form.asType place referenceRule with
        | .atom (.scalar _), .atom (.forward text spelling) => readInside place text spelling
        | _, type => type.resolved readInside

/-- The greatest number of texts that are read inside each other. -/
def readingDepth : Nat := 1000

/-- The annotation of a field with its texts read. -/
def hint (world : World) (names : Lookup) (written : Form) : Formed := do
  let read := world.read names readingDepth []
  match ← written.converted with
  | .atom (.forward text spelling) =>
    read (match written with | .atom (.forward ..) => .argument | _ => .field) text spelling
  | form => form.resolved read

/-- The annotations of one class, added to those of the classes behind it. -/
def ownHints (world : World) (known : Scope) (record : ClassRecord) :
    Except AnnotationFault Scope := do
  let module := (world.moduleNames? record.ref.space).getD fun _ => none
  let names := Lookup.deferred record.scope module
  match record.annotations with
  | .other value => throw (.noAttribute ("'" ++ value.sort ++ "' object") "items")
  | .fields annotations =>
    annotations.foldlM (fun known (name, written) => do
      return known.assign name (← world.hint names written)) known

/-- The annotations of a class and its ancestors, the farthest ancestor first. An
annotation for a name that is there takes its place. -/
def hints (world : World) (record : ClassRecord) : Except AnnotationFault Scope := do
  let found ← (world.records record.lineage).reverse.foldlM world.ownHints []
  found.mapM fun (name, form) => do return (name, ← form.plain)

end World

end TypeContracts
