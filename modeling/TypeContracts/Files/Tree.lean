import TypeContracts.Files.Location

/-!
# File trees

The files that a run reads and writes, as a value. A tree maps plain locations to files
and directories; a location without segments is always a directory. A location is looked
up from segment to segment, so that it has to lead through directories, and `..` leads
back.
-/

set_option autoImplicit false

namespace TypeContracts

/-- What a file holds: text, or bytes that are no text. -/
inductive Content where
  | text (value : String)
  | binary (bytes : List UInt8)
deriving DecidableEq, Repr, Inhabited

namespace Content

/-- The bytes of a content. -/
def bytes : Content → List UInt8
  | .text value => value.toUTF8.toList
  | .binary bytes => bytes

/-- The content that given bytes are. -/
def ofBytes (bytes : List UInt8) : Content :=
  match String.fromUTF8? ⟨bytes.toArray⟩ with
  | some value => .text value
  | none => .binary bytes

/-- A content with another behind it. -/
def append : Content → Content → Content
  | .text a, .text b => .text (a ++ b)
  | a, b => ofBytes (a.bytes ++ b.bytes)

end Content

/-- Why a file cannot be read or written. `nullCharacter` tells what was asked of a location
with such a character in it; nothing is told where a file was opened. -/
inductive FileFault where
  | exists
  | notDirectory
  | isDirectory
  | missing
  | nameTooLong
  | undecodable
  | nullCharacter (call : String)
deriving DecidableEq, Repr

/-- The report of a file that cannot be read or written. -/
def FileFault.message : FileFault → String
  | .exists => "File exists"
  | .notDirectory => "Not a directory"
  | .isDirectory => "Is a directory"
  | .missing => "No such file or directory"
  | .nameTooLong => "File name too long"
  | .undecodable => "The file holds bytes that are no text"
  | .nullCharacter call =>
    if call.isEmpty then "embedded null byte" else call ++ ": embedded null character in path"

/-- The kind of fault that a report is filed under. -/
def FileFault.kind : FileFault → String
  | .exists => "FileExistsError"
  | .notDirectory => "NotADirectoryError"
  | .isDirectory => "IsADirectoryError"
  | .missing => "FileNotFoundError"
  | .nameTooLong => "OSError"
  | .undecodable => "UnicodeDecodeError"
  | .nullCharacter _ => "ValueError"

/-- What is told beside the kind: only the location itself can be at fault with a text of
its own. -/
def FileFault.told? (fault : FileFault) : Option String :=
  match fault with
  | .nullCharacter _ => some fault.message
  | _ => none

/-- What stands at a place of a tree. -/
inductive FileEntry where
  | directory
  | file (content : Content)
deriving DecidableEq, Repr, Inhabited

/-- A tree of files and directories. -/
structure FileTree where
  entries : List (Location × FileEntry) := []
deriving Inhabited

namespace FileTree

/-! ## Looking up -/

/-- What stands at a resolved place. -/
def entry? (tree : FileTree) (place : Location) : Option FileEntry :=
  if place.segments.isEmpty then some .directory
  else (tree.entries.find? fun entry => entry.1 = place).map Prod.snd

/-- How many bytes the name of a file may have. -/
def nameLimit : Nat := 255

/-- How many bytes a location may have as a text. -/
def pathLimit : Nat := 4095

/-- The place that segments lead to from a place. All but the last have to be there, and
nothing is known above the root of the tree. -/
def resolveFrom (tree : FileTree) (place : Location) :
    List String → Except FileFault Location
  | [] => .ok place
  | segment :: rest =>
    match tree.entry? place with
    | none => .error .missing
    | some (.file _) => .error .notDirectory
    | some .directory =>
      if nameLimit < segment.utf8ByteSize then .error .nameTooLong
      else if segment ≠ ".." then resolveFrom tree (place.inner segment) rest
      else if place = .root then .error .missing
      else resolveFrom tree place.parent rest

/-- The place of a location. -/
def resolve (tree : FileTree) (location : Location) : Except FileFault Location :=
  if location.hasNull then .error (.nullCharacter "")
  else if pathLimit < (location.text "").utf8ByteSize then .error .nameTooLong
  else tree.resolveFrom (location.withSegments []) location.segments

/-- What a location leads to. -/
def lookup (tree : FileTree) (location : Location) : Except FileFault FileEntry := do
  match tree.entry? (← tree.resolve location) with
  | some entry => return entry
  | none => throw .missing

/-- What stands at the location, if anything does. A name that is too long for a lookup is
no answer. -/
def find (tree : FileTree) (location : Location) : Except FileFault (Option FileEntry) :=
  match tree.lookup location with
  | .ok entry => .ok (some entry)
  | .error .nameTooLong => .error .nameTooLong
  | .error _ => .ok none

/-- A directory stands at the location. -/
def hasDirectory (tree : FileTree) (location : Location) : Bool :=
  match tree.lookup location with
  | .ok .directory => true
  | _ => false

/-- A file stands at the location. -/
def hasFile (tree : FileTree) (location : Location) : Bool :=
  match tree.lookup location with
  | .ok (.file _) => true
  | _ => false

/-- The content of the file at a location. -/
def read (tree : FileTree) (location : Location) : Except FileFault Content := do
  match ← tree.lookup location with
  | .file content => return content
  | .directory => throw .isDirectory

/-- The text of the file at a location. -/
def readText (tree : FileTree) (location : Location) : Except FileFault String := do
  match ← tree.read location with
  | .text value => return value
  | .binary _ => throw .undecodable

/-! ## Changing -/

/-- The tree with an entry at a resolved place. -/
def set (tree : FileTree) (place : Location) (entry : FileEntry) : FileTree :=
  if tree.entries.any fun old => old.1 = place then
    ⟨tree.entries.map fun old => if old.1 = place then (place, entry) else old⟩
  else ⟨tree.entries ++ [(place, entry)]⟩

/-- The tree with a directory made at a location. -/
def makeDirectory (tree : FileTree) (location : Location) : Except FileFault FileTree := do
  if location.hasNull then throw (.nullCharacter "mkdir")
  let place ← tree.resolve location
  match tree.entry? place with
  | some _ => throw .exists
  | none => return tree.set place .directory

/-- The tree with a directory at a location, where one may be already. -/
def ensureDirectory (tree : FileTree) (location : Location) : Except FileFault FileTree :=
  match tree.makeDirectory location with
  | .ok made => .ok made
  | .error fault => if tree.hasDirectory location then .ok tree else .error fault

/-- The tree with the directory of reversed segments and those above it. -/
def ensureAbove (tree : FileTree) (base : Location) : List String → Except FileFault FileTree
  | [] => .ok tree
  | segment :: above =>
    let location := base.withSegments (segment :: above).reverse
    match tree.makeDirectory location with
    | .ok made => .ok made
    | .error .missing => do
      let tree ← ensureAbove tree base above
      tree.ensureDirectory location
    | .error fault => if tree.hasDirectory location then .ok tree else .error fault

/-- The tree with a directory at a location and all directories above it. -/
def ensureDirectories (tree : FileTree) (location : Location) : Except FileFault FileTree :=
  tree.ensureAbove location location.segments.reverse

/-- The tree with a content in the file at a location. -/
def write (tree : FileTree) (location : Location) (content : Content) :
    Except FileFault FileTree := do
  let place ← tree.resolve location
  match tree.entry? place with
  | some .directory => throw .isDirectory
  | _ => return tree.set place (.file content)

/-- The tree with more content at the end of the file at a location. -/
def append (tree : FileTree) (location : Location) (content : Content) :
    Except FileFault FileTree :=
  match tree.read location with
  | .ok old => tree.write location (old.append content)
  | .error .missing => tree.write location content
  | .error fault => .error fault

/-- The tree without the file at a location. -/
def remove (tree : FileTree) (location : Location) : Except FileFault FileTree := do
  if location.hasNull then throw (.nullCharacter "unlink")
  let place ← tree.resolve location
  match tree.entry? place with
  | none => throw .missing
  | some .directory => throw .isDirectory
  | some (.file _) => return ⟨tree.entries.filter fun entry => entry.1 ≠ place⟩

/-! ## Listing -/

/-- All places below a directory, sorted segment by segment. -/
def placesBelow (tree : FileTree) (directory : Location) : List Location :=
  let below := (tree.entries.map Prod.fst).filter directory.isAbove
  below.mergeSort fun a b => !List.lex b.segments a.segments fun s t => decide (s < t)

/-- The files of a tree with their places. -/
def files (tree : FileTree) : List (Location × Content) :=
  tree.entries.filterMap fun
    | (place, .file content) => some (place, content)
    | (_, .directory) => none

/-- The files of a tree that another tree does not hold with the same content. -/
def changes (old new : FileTree) : List (Location × Content) :=
  new.files.filter fun file => (old.read file.1).toOption ≠ some file.2

/-- The tree with what stands at a plain location, and the directories above it. -/
def know (tree : FileTree) (place : Location) (entry : FileEntry) : FileTree :=
  (place.around.foldl (fun tree directory => tree.set directory .directory) tree).set place entry

end FileTree

end TypeContracts
