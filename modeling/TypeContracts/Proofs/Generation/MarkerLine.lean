import Mathlib
import TypeContracts.Generation
import TypeContracts.Proofs.Emission.Lines
import TypeContracts.Proofs.Mapping.Steps

/-!
# The marker line of a generated file

An author writes behind the marker line of a generated file, and the next run keeps what
stands behind the first marker line. The two are the same when no marker line begins with a
line above (`customSection_emit`). Names and texts are written as they are, so that a name or
a text that holds a line feed and the marker makes a marker line of its own; what is generated
behind it counts as custom and is written again by every run (`customSection_emit_token`).
-/

set_option autoImplicit false

namespace TypeContracts.Generation

open TypeContracts.Graph TypeContracts.Emission MappingM
open Text (IsLine)

/-- A generated file is lines with a marker line behind them, and nothing is behind its first
marker line when no line above opens one; a marker on one line allows no exception. When all
that the unit takes over is on one line, no line above opens a marker line exactly when the
header and the comments for the linter do not. -/
theorem customSection_emit {options : Options} {unit : OutputUnit} {units : List OutputUnit}
    {text : String} (emitted : emit options unit units = .ok text) :
    ∃ lines : List String, (∀ text ∈ lines, IsLine text) ∧
      text = String.join (lines.map line) ++ line (markerLine options) ∧
      ((∀ text ∈ lines, opensMarker options text = false) →
        customSection? options text = some "") ∧
      (IsLine options.marker → customSection? options text = some "" →
        ∀ text ∈ lines, opensMarker options text = false) ∧
      ((∀ word ∈ unit.words units, IsLine word) →
        ((∀ text ∈ lines, opensMarker options text = false) ↔
          opensMarker options header = false ∧
            (options.linterMark = .perLine → unit.declarations ≠ [] →
              opensMarker options linterComment = false))) := by
  obtain ⟨imports, declarations, imported, declared, rfl⟩ := emit_eq_ok_iff.mp emitted
  have plain : ∀ text ∈ linesAbove options imports declarations, IsLine text :=
    fun _ => isLine_of_mem_linesAbove
  refine ⟨linesAbove options imports declarations, plain, assemble_eq imports declarations,
    ?_, ?_, ?_⟩
  · rw [assemble_eq]
    exact customSection?_above plain
  · rw [assemble_eq, customSection?_above_iff plain]
    intro single each text member
    obtain ⟨front, behind, split⟩ := List.append_of_mem member
    rw [Bool.eq_false_iff, Ne, opensMarker_iff single (plain text member), not_not]
    exact each text behind (split ▸ List.suffix_append front _)
  · exact opensMarker_linesAbove_iff imported declared

/-- A note under a marker of its own. -/
def note : OutputUnit :=
  { path := "Note", declarations := [.interface { fullName := "m.Note" } "Note"
      [.property "text" (.builtin "string") false false]] }

/-- The file of the note. -/
def noteText : String :=
  String.join (["// This file was generated by contractgen. Changes above the marker are overwritten.",
    "// eslint-disable-next-line", "export type Note = \x7b", "    text: string;", "\x7d;", "",
    "// custom code below"].map line)

/-- The marker line of the note is its last line. -/
theorem customSection_emit_note :
    emit { customMarker := some "custom code below", linterMark := .perLine } note [note] =
        .ok noteText ∧
      customSection? { customMarker := some "custom code below", linterMark := .perLine }
        noteText = some "" := by
  have emitted : emit { customMarker := some "custom code below", linterMark := .perLine } note
      [note] = .ok noteText := by decide +kernel
  obtain ⟨lines, _, _, closed, _, own⟩ := customSection_emit emitted
  exact ⟨emitted, closed ((own (by decide)).mpr (by decide))⟩

/-- An enumeration with a text that holds the marker on a line of its own. -/
def tokens : Setting Nat Nat where
  options := { customMarker := some "custom code below" }
  override := .silent
  layout := Layout.perType (some "m")
  describe _ := .ok
    { kind := .enumeration, fullName := "m.Token", name := "Token",
      enumMembers := [⟨"A", .text "a\n// custom code below\nb"⟩] }
  source _ := .ok []

/-- The one unit of the enumeration. -/
def tokenUnit : OutputUnit :=
  { path := "Token", declarations := [.enumeration { fullName := "m.Token" } "Token"
      [⟨"A", .text "a\n// custom code below\nb"⟩]] }

/-- The file of the enumeration. -/
def tokenText : String :=
  String.join (["// This file was generated by contractgen. Changes above the marker are overwritten.",
    "export enum Token \x7b", "    A = 'a", "// custom code below", "b',", "\x7d", "",
    "// custom code below"].map line)

/-- A graph is built and its unit is emitted, and the generated lines behind the marker in the
text count as custom. -/
theorem customSection_emit_token :
    (outcome (build tokens walkLimit [0]) {}).1 = .ok [tokenUnit] ∧
      emit tokens.options tokenUnit [tokenUnit] = .ok tokenText ∧
      customSection? tokens.options tokenText =
        some "b',\n\x7d\n\n// custom code below\n" := by
  refine ⟨by cbv, by decide +kernel, by decide +kernel⟩

end TypeContracts.Generation
