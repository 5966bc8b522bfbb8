import TypeContracts.Proofs.Declaration.Words
import TypeContracts.Proofs.Emission.CustomSection
import TypeContracts.Proofs.Result
import TypeContracts.Proofs.UnitPath

/-!
# The lines of an emitted text

A generated file is lines with a marker line behind them. Where the marker is on one line, it is
the only marker line exactly when no line above it has the marker and nothing but blanks behind
it. A marker that spans several lines can only be met above where a line is its first line.

The lines above are the header, the comments for linters, and the lines of imports and
declarations. Names and texts are written as they are, line feeds included, so that a name or a
text with a line feed in it can bring any line into the file. Without line feeds in them every
line of an import or a declaration begins with a letter, a blank or a closing brace, and only the
header and the comments for linters are left (`customSection_emit`).
-/

set_option autoImplicit false

namespace TypeContracts

open Text (IsLine isLine_append)

/-! ## Lines that open a marker line -/

namespace Emission

/-- The text has the first line of the marker line, and nothing but blanks and at most one
carriage return behind it. -/
def opensMarker (options : Options) (text : String) : Bool :=
  (Text.after? ((markerLine options).toList.takeWhile (· ≠ '\n')) text.toList).any fun behind =>
    behind.dropWhile isInlineBlank == [] || behind.dropWhile isInlineBlank == ['\r']

section

variable {marker cs behind : List Char}

/-- A line ends in front of a line feed when nothing stands there, or a carriage return. -/
theorem afterLineEnd?_line (line : '\n' ∉ cs) :
    afterLineEnd? (cs ++ '\n' :: behind) =
      if cs = [] ∨ cs = ['\r'] then some behind else none := by
  match cs with
  | [] => simp [afterLineEnd?]
  | [c] =>
    by_cases same : c = '\r'
    · simp [same, afterLineEnd?]
    · simp only [List.mem_singleton] at line
      simp [afterLineEnd?, same, Ne.symm line]
  | c :: d :: rest =>
    simp only [List.mem_cons, not_or] at line
    simp [afterLineEnd?, Ne.symm line.1, Ne.symm line.2.1]

/-- Characters of which none is blank start behind the blanks in front of a line feed. -/
theorem dropWhile_blank_line (cs behind : List Char) :
    (cs ++ '\n' :: behind).dropWhile isInlineBlank =
      cs.dropWhile isInlineBlank ++ '\n' :: behind := by
  induction cs with
  | nil => rfl
  | cons c rest ih =>
    by_cases blank : isInlineBlank c = true
    · rw [List.cons_append, List.dropWhile_cons_of_pos blank, List.dropWhile_cons_of_pos blank, ih]
    · rw [List.cons_append, List.dropWhile_cons_of_neg blank, List.dropWhile_cons_of_neg blank,
        List.cons_append]

/-- A beginning of several lines is only met where a line is its first line. -/
theorem after?_firstLine {rest : List Char} (several : '\n' ∈ marker)
    (line : '\n' ∉ cs) (found : Text.after? marker (cs ++ '\n' :: behind) = some rest) :
    Text.after? (marker.takeWhile (· ≠ '\n')) cs = some [] := by
  induction marker generalizing cs with
  | nil => cases several
  | cons p ps ih =>
    cases cs with
    | nil =>
      by_cases feed : p = '\n'
      · simp [feed, Text.after?]
      · simp [Text.after?, feed] at found
    | cons c cs =>
      rw [List.mem_cons, not_or] at line
      by_cases same : p = c
      · subst same
        have different : p ≠ '\n' := Ne.symm line.1
        have later : '\n' ∈ ps := (List.mem_cons.mp several).resolve_left line.1
        rw [List.cons_append, Text.after?, if_pos rfl] at found
        rw [List.takeWhile_cons_of_pos (by simpa using different), Text.after?, if_pos rfl]
        exact ih later line.2 found
      · simp [Text.after?, same] at found

/-- The marker on one line is met in front of a line feed when nothing but blanks and at most
one carriage return stands behind it. -/
theorem afterMarker?_line (single : '\n' ∉ marker) (line : '\n' ∉ cs) :
    afterMarker? marker (cs ++ '\n' :: behind) =
      if (Text.after? marker cs).any fun rest =>
        rest.dropWhile isInlineBlank == [] || rest.dropWhile isInlineBlank == ['\r']
      then some behind else none := by
  rw [afterMarker?, Text.after?_append_cons single]
  cases found : Text.after? marker cs with
  | none => rfl
  | some rest =>
    have split := Text.after?_eq_some_iff.mp found
    have plain : '\n' ∉ rest.dropWhile isInlineBlank := fun member =>
      line (split ▸ List.mem_append_right _ ((List.dropWhile_sublist _).mem member))
    rw [Option.map_some, Option.bind_some, dropWhile_blank_line, afterLineEnd?_line plain]
    simp

/-- Inside a line no marker line starts. -/
theorem splitAtMarker?_inside (line : '\n' ∉ cs) :
    splitAtMarker? marker false (cs ++ '\n' :: behind) = splitAtMarker? marker true behind := by
  induction cs with
  | nil => simp [splitAtMarker?]
  | cons c rest ih =>
    rw [List.mem_cons, not_or] at line
    have plain : decide (c = '\n') = false := decide_eq_false (Ne.symm line.1)
    rw [List.cons_append, splitAtMarker?, if_neg (by simp), plain, ih line.2]

/-- The first marker line starts with the first line, or with a later one. -/
theorem splitAtMarker?_line (line : '\n' ∉ cs) :
    splitAtMarker? marker true (cs ++ '\n' :: behind) =
      (afterMarker? marker (cs ++ '\n' :: behind) <|> splitAtMarker? marker true behind) := by
  cases cs with
  | nil => cases found : afterMarker? marker ('\n' :: behind) <;> simp [splitAtMarker?, found]
  | cons c rest =>
    rw [List.mem_cons, not_or] at line
    have plain : decide (c = '\n') = false := decide_eq_false (Ne.symm line.1)
    rw [List.cons_append, splitAtMarker?, if_pos rfl, plain, splitAtMarker?_inside line.2]
    cases afterMarker? marker (c :: (rest ++ '\n' :: behind)) <;> rfl

/-- No characters are blanks. -/
theorem blanks_nil : Blanks [] := by
  intro c member
  cases member

/-- The characters of lines with a marker line behind them. -/
def above (marker : List Char) (lines : List (List Char)) : List Char :=
  lines.flatMap (· ++ ['\n']) ++ (marker ++ ['\n'])

theorem above_cons (marker line : List Char) (lines : List (List Char)) :
    above marker (line :: lines) = line ++ '\n' :: above marker lines := by
  simp [above]

/-- The marker line behind some lines is the first one when none starts with one of them. -/
theorem splitAtMarker?_above_iff {slashed : List Char} (slash : marker = '/' :: slashed)
    {lines : List (List Char)} (plain : ∀ line ∈ lines, '\n' ∉ line) :
    splitAtMarker? marker true (above marker lines) = some [] ↔
      ∀ line behind, line :: behind <:+ lines →
        afterMarker? marker (above marker (line :: behind)) = none := by
  -- The reader goes from line to line; a marker line that it meets early leaves something over.
  induction lines with
  | nil =>
    have last : afterMarker? marker (marker ++ ['\n']) = some [] :=
      afterMarker?_complete blanks_nil .feed []
    rw [slash, List.cons_append] at last
    simp [above, slash, splitAtMarker?, last, List.suffix_nil]
  | cons line lines ih =>
    rw [List.forall_mem_cons] at plain
    have closed : above marker (line :: lines) =
        line ++ '\n' :: (lines.flatMap (· ++ ['\n'])) ++ (marker ++ ([] ++ ['\n'])) := by
      simp [above]
    have early : afterMarker? marker (above marker (line :: lines)) ≠ some [] := by
      rw [closed]
      cases line with
      | nil => exact afterMarker?_ne_end slash blanks_nil .feed
      | cons c rest => exact afterMarker?_ne_end slash blanks_nil .feed
    rw [above_cons, splitAtMarker?_line plain.1, ← above_cons]
    cases found : afterMarker? marker (above marker (line :: lines)) with
    | none =>
      change splitAtMarker? marker true (above marker lines) = some [] ↔ _
      rw [ih plain.2]
      constructor
      · intro later line' behind suffix
        rcases List.suffix_cons_iff.mp suffix with same | inside
        · rw [same, found]
        · exact later line' behind inside
      · exact fun each line' behind inside =>
          each line' behind (inside.trans (List.suffix_cons _ _))
    | some custom =>
      change some custom = some [] ↔ _
      constructor
      · rintro ⟨⟩
        exact absurd found early
      · intro each
        rw [each line lines (List.suffix_refl _)] at found
        cases found

end

variable {options : Options}

/-- A marker line of a marker on one line is opened by the line that it is. -/
theorem opensMarker_iff (single : IsLine options.marker) {text : String} (line : IsLine text)
    (behind : List Char) :
    opensMarker options text = true ↔
      afterMarker? (markerLine options).toList (text.toList ++ '\n' :: behind) ≠ none := by
  have plain : '\n' ∉ (markerLine options).toList :=
    isLine_append.mpr ⟨by decide, single⟩
  have whole : (markerLine options).toList.takeWhile (· ≠ '\n') = (markerLine options).toList := by
    rw [List.takeWhile_eq_self_iff]
    intro c member
    simpa using fun same : c = '\n' => plain (same ▸ member)
  rw [afterMarker?_line plain line, opensMarker, whole]
  split <;> simp_all

/-- A marker line begins with a line that opens it. -/
theorem opensMarker_of_afterMarker? {text : String} (line : IsLine text) {behind : List Char}
    (found : afterMarker? (markerLine options).toList (text.toList ++ '\n' :: behind) ≠ none) :
    opensMarker options text = true := by
  by_cases single : IsLine options.marker
  · exact (opensMarker_iff single line behind).mpr found
  · have several : '\n' ∈ (markerLine options).toList := by
      by_contra plain
      exact single (isLine_append.mp plain).2
    obtain ⟨rest, found⟩ := Option.ne_none_iff_exists'.mp found
    obtain ⟨inner, taken, _⟩ := Option.bind_eq_some_iff.mp found
    rw [opensMarker, after?_firstLine several line taken]
    rfl

/-- A line that opens a marker line begins with a slash, and a blank is its third character. -/
theorem exists_of_opensMarker {text : String} (opens : opensMarker options text = true) :
    ∃ rest, text.toList = '/' :: '/' :: ' ' :: rest := by
  rw [opensMarker, Option.any_eq_true] at opens
  obtain ⟨behind, found, _⟩ := opens
  have begins : (markerLine options).toList = '/' :: '/' :: ' ' :: options.marker.toList := by
    simp [markerLine, String.toList_append]
  rw [Text.after?_eq_some_iff, begins] at found
  exact ⟨_, by rw [found]; rfl⟩

/-- A line that does not begin as a comment opens no marker line. -/
theorem opensMarker_eq_false {text : String}
    (other : ∀ rest, text.toList ≠ '/' :: '/' :: ' ' :: rest) :
    opensMarker options text = false := by
  rw [Bool.eq_false_iff]
  intro opens
  obtain ⟨rest, begins⟩ := exists_of_opensMarker opens
  exact other rest begins

@[simp] theorem opensMarker_empty : opensMarker options "" = false :=
  opensMarker_eq_false nofun

/-- The mark for linters at the head of a file opens no marker line. -/
theorem opensMarker_mark : opensMarker options "/* eslint-disable */" = false :=
  opensMarker_eq_false fun _ begins =>
    absurd (List.cons.inj (List.cons.inj begins).2).1 (by decide)

/-- Lines with a marker line behind them. -/
theorem toList_above (lines : List String) :
    (String.join (lines.map line) ++ line (markerLine options)).toList =
      above (markerLine options).toList (lines.map String.toList) := by
  rw [String.toList_append, String.toList_join, above, List.flatMap_map, List.flatMap_map]
  simp only [line, String.toList_append]
  rfl

/-- Lines with a marker line behind them have nothing behind their first marker line exactly
when no marker line begins with one of them. -/
theorem customSection?_above_iff {lines : List String} (plain : ∀ text ∈ lines, IsLine text) :
    customSection? options (String.join (lines.map line) ++ line (markerLine options)) =
        some "" ↔
      ∀ text behind, text :: behind <:+ lines →
        afterMarker? (markerLine options).toList
          (text.toList ++ '\n' :: above (markerLine options).toList
            (behind.map String.toList)) = none := by
  obtain ⟨slashed, slash⟩ := exists_toList_markerLine options
  rw [customSection?_eq_some_iff, toList_above]
  refine (splitAtMarker?_above_iff slash (List.forall_mem_map.mpr plain)).trans ?_
  constructor
  · intro each text behind inside
    have found := each _ _ (inside.map String.toList)
    rwa [above_cons] at found
  · intro each line behind inside
    obtain ⟨front, split⟩ := inside
    obtain ⟨front', tail, rfl, rfl, tail'⟩ := List.map_eq_append_iff.mp split.symm
    obtain ⟨text, behind', rfl, rfl, rfl⟩ := List.map_eq_cons_iff.mp tail'
    rw [above_cons]
    exact each text behind' (List.suffix_append front' _)

/-- Lines with a marker line behind them have nothing behind their first marker line when no
line opens one. -/
theorem customSection?_above {lines : List String} (plain : ∀ text ∈ lines, IsLine text)
    (closed : ∀ text ∈ lines, opensMarker options text = false) :
    customSection? options (String.join (lines.map line) ++ line (markerLine options)) =
      some "" := by
  rw [customSection?_above_iff plain]
  intro text behind inside
  have member := inside.mem List.mem_cons_self
  by_contra found
  exact absurd (opensMarker_of_afterMarker? (plain text member) found)
    (Bool.eq_false_iff.mp (closed text member))

/-! ## The lines of a file -/

/-- The comment that switches the linter off for the next line. -/
def linterComment : String := "// eslint-disable-next-line"

/-- The lines of a file above its marker line. -/
def linesAbove (options : Options) (imports declarations : List String) : List String :=
  header :: ((if options.linterMark = .perFile then ["/* eslint-disable */"] else []) ++
    (imports.flatMap (Text.cut '\n') ++ ((if imports.isEmpty then [] else [""]) ++
      declarations.flatMap fun text =>
        (if options.linterMark = .perLine then [linterComment] else []) ++
          (Text.cut '\n' text ++ [""]))))

/-- Texts are their lines. -/
theorem join_lines_flatMap (texts : List String) :
    String.join ((texts.flatMap (Text.cut '\n')).map line) = String.join (texts.map line) := by
  induction texts with
  | nil => rfl
  | cons text rest ih =>
    rw [List.flatMap_cons, List.map_append, String.join_append, ih, List.map_cons,
      String.join_cons]
    exact congrArg (· ++ _) (Text.join_cut_feed text)

/-- Declarations with what stands around them are their lines. -/
theorem join_lines_blocks (mark : LinterMark) (texts : List String) :
    String.join ((texts.flatMap fun text =>
        (if mark = .perLine then [linterComment] else []) ++
          (Text.cut '\n' text ++ [""])).map line) =
      String.join (texts.map (block mark)) := by
  induction texts with
  | nil => rfl
  | cons text rest ih =>
    have cut : String.join ((Text.cut '\n' text).map line) = line text := Text.join_cut_feed text
    rw [List.flatMap_cons, List.map_append, String.join_append, ih, List.map_cons,
      String.join_cons, List.map_append, List.map_append, String.join_append, String.join_append,
      cut, block]
    split <;> simp [linterComment, String.append_assoc]

/-- A file is its lines with the marker line behind them. -/
theorem assemble_eq (imports declarations : List String) :
    assemble options imports declarations =
      String.join ((linesAbove options imports declarations).map line) ++
        line (markerLine options) := by
  rw [linesAbove, List.map_cons, String.join_cons, List.map_append, String.join_append,
    List.map_append, String.join_append, List.map_append, String.join_append, join_lines_flatMap,
    join_lines_blocks, assemble]
  split <;> split <;> simp [String.append_assoc]

/-- The lines above the marker line hold no line feed. -/
theorem isLine_of_mem_linesAbove {imports declarations : List String} {text : String}
    (member : text ∈ linesAbove options imports declarations) : IsLine text := by
  simp only [linesAbove, List.mem_cons, List.mem_append, List.mem_flatMap] at member
  rcases member with rfl | mark | ⟨_, _, inside⟩ | empty | ⟨_, _, mark | inside | rfl | none⟩
  · decide
  · split at mark
    · cases List.mem_singleton.mp mark
      decide
    · cases mark
  · exact Text.isLine_of_mem_cut inside
  · split at empty
    · cases empty
    · cases List.mem_singleton.mp empty
      decide
  · split at mark
    · cases List.mem_singleton.mp mark
      decide
    · cases mark
  · exact Text.isLine_of_mem_cut inside
  · decide
  · cases none

/-! ## Imports -/

end Emission

namespace UnitPath

/-- The segments of a path on one line are on one line. -/
theorem notMem_of_mem_segments {path : List Char} (plain : '\n' ∉ path) {segment : Segment}
    (member : segment ∈ segments path) : '\n' ∉ segment := by
  have slashes : '\n' ∉ withSlashes path := by
    simp only [withSlashes, List.mem_map, not_exists, not_and]
    intro c inside same
    split at same
    · cases same
    · exact plain (same ▸ inside)
  have cut := (dropExtension_sublist _).trans (Text.trim_sublist (withSlashes path))
  exact fun inside => slashes (cut.mem (Text.mem_of_mem_pieces (List.mem_filter.mp member).1 inside))

/-- Segments on one line make a path on one line. -/
theorem isLine_ofSegments {parts : List Segment} (plain : ∀ part ∈ parts, '\n' ∉ part) :
    IsLine (ofSegments parts) := by
  rw [IsLine, ofSegments, String.toList_ofList]
  exact Text.notMem_glue (by decide) plain

/-- The specifier of a target on one line is on one line. -/
theorem isLine_resolveImport {source target specifier : String} (line : IsLine target)
    (resolved : resolveImport source target = .ok specifier) : IsLine specifier := by
  have descent : ∀ shared, IsLine (ofSegments ((segments target.toList).drop shared)) :=
    fun shared => isLine_ofSegments fun part inside =>
      notMem_of_mem_segments line (List.mem_of_mem_drop inside)
  have ascent : ∀ steps, IsLine (String.join (List.replicate steps "../")) := by
    intro steps
    rw [IsLine, String.toList_join]
    simp [List.mem_flatMap, List.mem_replicate]
  unfold resolveImport at resolved
  simp only at resolved
  split_ifs at resolved
  rw [← Except.ok.inj resolved, UnitPath.specifier]
  split
  · exact isLine_append.mpr ⟨by decide, descent _⟩
  · exact isLine_append.mpr ⟨ascent _, descent _⟩

end UnitPath

/-- The texts that an import takes over. -/
def Import.words (statement : Import) : List String := [statement.name, statement.target]

/-- An import whose words are on one line is a line that begins with a letter. -/
theorem Import.render_line {statement : Import} {text : String}
    (lines : ∀ word ∈ statement.words, IsLine word) (rendered : statement.render = .ok text) :
    IsLine text ∧ ∃ rest, text.toList = 'i' :: rest := by
  simp only [Import.words, List.forall_mem_cons] at lines
  rw [Import.render] at rendered
  rcases resolved : UnitPath.resolveImport statement.current statement.target with
    fault | specifier <;> rw [resolved] at rendered <;> cases rendered
  have line := UnitPath.isLine_resolveImport lines.2.1 resolved
  simp only [isLine_append]
  refine ⟨⟨⟨⟨⟨by decide, lines.1⟩, by decide⟩, line⟩, by decide⟩, ?_⟩
  simp only [String.toList_append]
  exact ⟨_, rfl⟩

/-! ## Units -/

/-- The texts that the file of a unit takes over. -/
def OutputUnit.words (units : List OutputUnit) (unit : OutputUnit) : List String :=
  unit.imports.flatMap Import.words ++
    unit.declarations.flatMap (Declaration.words (Emission.naming units))

namespace Emission

variable {options : Options}

/-- Imports are written in their order. -/
theorem importLines_eq_ok_iff {imports : List Import} {lines : List String} :
    importLines imports = .ok lines ↔ (sortImports imports).mapM Import.render = .ok lines := by
  rw [importLines]
  cases (sortImports imports).mapM Import.render <;> simp

/-- Declarations are written one after another. -/
theorem blocks_eq_ok_iff {names : Naming} {declarations : List Declaration} {texts : List String} :
    blocks names declarations = .ok texts ↔
      declarations.mapM (Declaration.render names) = .ok texts := by
  rw [blocks]
  cases declarations.mapM (Declaration.render names) <;> simp

/-- The text of a unit is put together from its imports and its declarations. -/
theorem emit_eq_ok_iff {unit : OutputUnit} {units : List OutputUnit} {text : String} :
    emit options unit units = .ok text ↔ ∃ imports declarations,
      importLines unit.imports = .ok imports ∧
        blocks (naming units) unit.declarations = .ok declarations ∧
          assemble options imports declarations = text := by
  rw [emit, Result.bind_eq_ok_iff]
  refine exists_congr fun imports => ?_
  rw [Result.bind_eq_ok_iff]
  constructor
  · rintro ⟨imported, declarations, declared, same⟩
    exact ⟨declarations, imported, declared, Except.ok.inj same⟩
  · rintro ⟨declarations, imported, declared, rfl⟩
    exact ⟨imported, declarations, declared, rfl⟩

/-- The written imports are those of the unit. -/
theorem exists_of_mem_importLines {imports : List Import} {lines : List String}
    (written : importLines imports = .ok lines) {text : String} (member : text ∈ lines) :
    ∃ statement ∈ imports, statement.render = .ok text := by
  obtain ⟨statement, inside, same⟩ :=
    Result.exists_of_mem_mapM (importLines_eq_ok_iff.mp written) member
  exact ⟨statement, (List.mergeSort_perm _ _).mem_iff.mp inside, same⟩

/-- The written declarations are those of the unit. -/
theorem exists_of_mem_blocks {names : Naming} {declarations : List Declaration}
    {texts : List String} (written : blocks names declarations = .ok texts) {text : String}
    (member : text ∈ texts) :
    ∃ declaration ∈ declarations, declaration.render names = .ok text :=
  Result.exists_of_mem_mapM (blocks_eq_ok_iff.mp written) member

/-- There is a text when there is a declaration. -/
theorem blocks_ne_nil {names : Naming} {declarations : List Declaration} {texts : List String}
    (written : blocks names declarations = .ok texts) (proper : declarations ≠ []) :
    texts ≠ [] := by
  have lengths := (Result.mapM_eq_ok_iff.mp (blocks_eq_ok_iff.mp written)).length_eq
  rintro rfl
  exact proper (List.length_eq_zero_iff.mp lengths)

/-- When all that a unit takes over is on one line, only the header and the comments for the
linter can open a marker line. -/
theorem opensMarker_linesAbove_iff {unit : OutputUnit} {units : List OutputUnit}
    {imports declarations : List String} (imported : importLines unit.imports = .ok imports)
    (declared : blocks (naming units) unit.declarations = .ok declarations)
    (lines : ∀ word ∈ unit.words units, IsLine word) :
    (∀ text ∈ linesAbove options imports declarations, opensMarker options text = false) ↔
      opensMarker options header = false ∧
        (options.linterMark = .perLine → unit.declarations ≠ [] →
          opensMarker options linterComment = false) := by
  rw [OutputUnit.words, List.forall_mem_append, List.forall_mem_flatMap,
    List.forall_mem_flatMap] at lines
  have statements : ∀ text ∈ imports.flatMap (Text.cut '\n'),
      opensMarker options text = false := by
    intro text member
    obtain ⟨written, listed, inside⟩ := List.mem_flatMap.mp member
    obtain ⟨statement, known, rendered⟩ := exists_of_mem_importLines imported listed
    obtain ⟨line, rest, begins⟩ := Import.render_line (lines.1 statement known) rendered
    rw [Text.cut_of_isLine line, List.mem_singleton] at inside
    exact opensMarker_eq_false fun behind slash => by
      rw [inside, begins] at slash
      exact absurd (List.cons.inj slash).1 (by decide)
  have bodies : ∀ written ∈ declarations, ∀ text ∈ Text.cut '\n' written,
      opensMarker options text = false := by
    intro written listed text inside
    obtain ⟨declaration, known, rendered⟩ := exists_of_mem_blocks declared listed
    obtain ⟨_, first, begun, rest, begins⟩ :=
      Declaration.lines_render (lines.2 declaration known) rendered text inside
    refine opensMarker_eq_false fun behind slash => ?_
    rw [begins] at slash
    cases (List.cons.inj slash).1
    exact absurd begun (by decide)
  simp only [linesAbove, List.forall_mem_cons, List.forall_mem_append, List.forall_mem_flatMap]
  refine and_congr_right fun _ => ?_
  constructor
  · rintro ⟨_, _, _, each⟩ perLine proper
    obtain ⟨written, listed⟩ := List.exists_mem_of_ne_nil _ (blocks_ne_nil declared proper)
    have marks := (each written listed).1
    rw [if_pos perLine, List.forall_mem_singleton] at marks
    exact marks
  · intro comments
    refine ⟨?_, List.forall_mem_flatMap.mp statements, ?_, fun written listed => ⟨?_,
      bodies written listed, opensMarker_empty, by simp⟩⟩
    · split
      · exact List.forall_mem_singleton.mpr opensMarker_mark
      · simp
    · split
      · simp
      · exact List.forall_mem_singleton.mpr opensMarker_empty
    · split
      next perLine =>
        obtain ⟨declaration, known, _⟩ := exists_of_mem_blocks declared listed
        exact List.forall_mem_singleton.mpr (comments perLine (List.ne_nil_of_mem known))
      next => simp

end Emission

end TypeContracts
