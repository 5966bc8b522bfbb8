import TypeContracts.Text.Blank
import TypeContracts.Text.Pieces

/-!
# Unit paths

A unit path names an output file inside the generated tree, with `/` between its
segments and without the extension. `normalise` brings a path into that form, and
`specifier` is the module specifier with which one unit imports another: it climbs
out of the directories that the two paths do not share and descends to the target.
-/

set_option autoImplicit false

namespace TypeContracts.UnitPath

/-- A path segment. -/
abbrev Segment := List Char

/-! ## Normal form -/

/-- A backslash separates segments as a slash does. -/
def withSlashes (path : List Char) : List Char :=
  path.map fun c => if c = '\\' then '/' else c

/-- The path without one trailing extension. -/
def dropExtension (path : List Char) : List Char :=
  match Text.after? ['s', 't', '.'] path.reverse with
  | some front => front.reverse
  | none => path

/-- The segment stays: it is neither empty nor the directory itself. -/
def isKept (segment : Segment) : Bool := !segment.isEmpty && segment != ['.']

/-- The segments of a path, in order. -/
def segments (path : List Char) : List Segment :=
  (Text.pieces '/' (dropExtension (Text.trim (withSlashes path)))).filter isKept

/-- The path that has the given segments. -/
def ofSegments (parts : List Segment) : String := String.ofList (Text.glue '/' parts)

/-- The normal form of a path: its segments with single slashes between them. -/
def normalise (path : String) : String := ofSegments (segments path.toList)

/-! ## Import specifiers -/

/-- Why a unit cannot import another. -/
inductive ImportFault where
  | emptyTarget
  | selfImport (unit : String)
deriving DecidableEq, Repr

/-- The report of an import that is not possible. -/
def ImportFault.message : ImportFault → String
  | .emptyTarget => "Import target path must not be empty"
  | .selfImport unit => "Unit '" ++ unit ++ "' cannot import itself"

/-- The number of leading segments that two paths share. -/
def sharedLength : List Segment → List Segment → Nat
  | a :: as, b :: bs => if a = b then sharedLength as bs + 1 else 0
  | _, _ => 0

/-- The specifier from a directory to a target unit. -/
def specifier (directory target : List Segment) : String :=
  let shared := sharedLength directory target.dropLast
  let ascent := directory.length - shared
  let descent := ofSegments (target.drop shared)
  if ascent = 0 then "./" ++ descent
  else String.join (List.replicate ascent "../") ++ descent

/-- The specifier with which the unit at `source` imports the unit at `target`. -/
def resolveImport (source target : String) : Except ImportFault String :=
  let sourceParts := segments source.toList
  let targetParts := segments target.toList
  if targetParts = [] then .error .emptyTarget
  else if sourceParts = targetParts then .error (.selfImport (ofSegments sourceParts))
  else .ok (specifier sourceParts.dropLast targetParts)

end TypeContracts.UnitPath
