import TypeContracts.Text.Pieces

/-!
# Locations

Where a file or a directory is: below the root of the tree that a run works in, or at an
absolute place outside it. A location keeps the segments as they were written, without
the empty ones and those that name the directory itself; `..` is resolved only where a
file is looked up or where a location is brought into `plain` form. An absolute place
also keeps whether it was written with two slashes in front.
-/

set_option autoImplicit false

namespace TypeContracts

/-- A place in the file system. -/
inductive Location where
  | inside (segments : List String)
  | outside (isDoubled : Bool) (segments : List String)
deriving DecidableEq, Repr, Inhabited

namespace Location

/-- The root of the tree. -/
def root : Location := .inside []

/-- The segments of a location. -/
def segments : Location → List String
  | .inside segments => segments
  | .outside _ segments => segments

/-- The segments that a path text spells. -/
def spelled (path : String) : List String :=
  (Text.cut '/' path).filter fun segment => segment != "" && segment != "."

/-- The location with other segments. -/
def withSegments (segments : List String) : Location → Location
  | .inside _ => .inside segments
  | .outside isDoubled _ => .outside isDoubled segments

/-- The place that a path text names, seen from a location. -/
def join (base : Location) (path : String) : Location :=
  if Text.startsWith "/" path then
    .outside (Text.startsWith "//" path && !Text.startsWith "///" path) (spelled path)
  else base.withSegments (base.segments ++ spelled path)

/-- The location of a segment in this one. -/
def inner (location : Location) (segment : String) : Location :=
  location.withSegments (location.segments ++ [segment])

/-- The location that holds this one. -/
def parent (location : Location) : Location :=
  location.withSegments location.segments.dropLast

/-- The beginnings of a list, the empty one first. -/
def beginnings {α : Type} : List α → List (List α)
  | [] => [[]]
  | a :: rest => [] :: (beginnings rest).map (a :: ·)

/-- The locations that hold this one, from the outermost on. -/
def around (location : Location) : List Location :=
  (beginnings location.segments.dropLast).map fun segments => location.withSegments segments

/-- A segment holds the null character, which no file name can hold. -/
def hasNull (location : Location) : Bool :=
  location.segments.any fun segment => segment.toList.contains '\x00'

/-- The last segment. -/
def name (location : Location) : String := location.segments.getLast?.getD ""

/-- Segments with every `..` carried out as far as they go, in reverse order. -/
def climb (walked : List String) : List String → List String
  | [] => walked
  | segment :: rest =>
    if segment = ".." then
      match walked with
      | above :: others =>
        if above = ".." then climb (".." :: walked) rest else climb others rest
      | [] => climb [".."] rest
    else climb (segment :: walked) rest

/-- The same place without detours over a parent, and with one slash in front. Nothing
lies above an absolute place without segments. -/
def plain : Location → Location
  | .inside segments => .inside (climb [] segments).reverse
  | .outside _ segments => .outside false ((climb [] segments).reverse.dropWhile (· = ".."))

/-- The text of a location, where the root of the tree is written as given. -/
def text (rootText : String) : Location → String
  | .inside [] => rootText
  | .inside segments => rootText ++ "/" ++ Text.join "/" segments
  | .outside isDoubled segments =>
    (if isDoubled then "//" else "/") ++ Text.join "/" segments

/-- The path below a directory, for a location whose segments begin with those of the
directory. -/
def below? (directory location : Location) : Option String :=
  match directory, location with
  | .inside base, .inside place => strip base place
  | .outside d base, .outside e place => if d = e then strip base place else none
  | _, _ => none
where
  /-- What the segments have behind the given ones. -/
  strip (base place : List String) : Option String :=
    if base.isPrefixOf place then
      let rest := place.drop base.length
      some (if rest.isEmpty then "." else Text.join "/" rest)
    else none

/-- A location lies below another, at any depth. -/
def isAbove (directory location : Location) : Bool :=
  directory ≠ location && (directory.below? location).isSome

/-- The length of the common beginning of two lists. -/
def common : List String → List String → Nat
  | a :: as, b :: bs => if a = b then common as bs + 1 else 0
  | _, _ => 0

/-- Segments up to a null character, where a path ends. -/
def untilNull : List String → List String
  | [] => []
  | segment :: rest =>
    let front := segment.toList.takeWhile (· ≠ '\x00')
    if front.length < segment.length then
      if front.isEmpty then [] else [String.ofList front]
    else segment :: untilNull rest

/-- The path from a directory to a location, or the absolute path outside the tree as it
was written. -/
def relativeTo (directory location : Location) : String :=
  match directory.plain, (location.withSegments (untilNull location.segments)).plain with
  | .inside base, .inside place =>
    let shared := common base place
    let path := List.replicate (base.length - shared) ".." ++ place.drop shared
    if path.isEmpty then "." else Text.join "/" path
  | _, _ => location.text ""

end Location

end TypeContracts
