import TypeContracts.Proofs.Emission.Lines

/-!
# The first marker line of a text

The custom section of a text is read character by character. Here it is told from the lines of the
text: a marker line is a line that has the marker and nothing but blanks behind it
(`IsMarkerLine`). For a marker on one line a text has a custom section exactly when one of its
lines is a marker line, and the custom section is what stands behind the first of them
(`customSection?_firstMarker`).

A carriage return belongs to the end of a line only in front of a line feed, so that the last line
of a text keeps the one that it ends with.
-/

set_option autoImplicit false

namespace TypeContracts.Emission

/-! ## Lines -/

/-- A line in front of a line feed, without the carriage return that belongs to its end. -/
def dropReturn (cs : List Char) : List Char :=
  if cs.getLast? = some '\r' then cs.dropLast else cs

/-- The lines that stand on the pieces between line feeds. -/
def linesOfPieces : List (List Char) → List (List Char)
  | [] => []
  | [last] => [last]
  | piece :: next :: others => dropReturn piece :: linesOfPieces (next :: others)

/-- The lines of a text. -/
def linesOf (text : String) : List (List Char) := linesOfPieces (Text.pieces '\n' text.toList)

/-- The line is the marker with nothing but blanks behind it. -/
def IsMarkerLine (marker line : List Char) : Prop :=
  ∃ blanks, Blanks blanks ∧ line = marker ++ blanks

instance (marker line : List Char) : Decidable (IsMarkerLine marker line) :=
  decidable_of_iff ((Text.after? marker line).any fun blanks => blanks.all isInlineBlank) <| by
    simp only [Option.any_eq_true, Text.after?_eq_some_iff, List.all_eq_true]
    exact exists_congr fun _ => and_comm

section

variable {marker cs behind : List Char}

theorem dropReturn_concat (cs : List Char) : dropReturn (cs ++ ['\r']) = cs := by
  simp [dropReturn]

theorem dropReturn_cases (cs : List Char) : cs = dropReturn cs ∨ cs = dropReturn cs ++ ['\r'] := by
  rw [dropReturn]
  split_ifs with ends
  · exact .inr (List.dropLast_append_getLast? '\r' ends).symm
  · exact .inl rfl

/-- A marker line ends in the marker or in a blank, so that there is no return to take from it. -/
theorem dropReturn_of_isMarkerLine (plain : '\r' ∉ marker) (isMarker : IsMarkerLine marker cs) :
    dropReturn cs = cs := by
  obtain ⟨blanks, blank, rfl⟩ := isMarker
  refine if_neg fun ends => ?_
  rcases List.mem_append.mp (List.mem_of_getLast? ends) with inside | inside
  · exact plain inside
  · exact absurd (blank '\r' inside) (by decide)

theorem IsMarkerLine.notMem_feed (single : '\n' ∉ marker) (isMarker : IsMarkerLine marker cs) :
    '\n' ∉ cs := by
  obtain ⟨blanks, blank, rfl⟩ := isMarker
  intro member
  rcases List.mem_append.mp member with inside | inside
  · exact single inside
  · exact absurd (blank '\n' inside) (by decide)

/-! ## Where a marker line starts -/

/-- What stands in front of the first line feed is told from the whole. -/
theorem eq_of_append_feed {front rest : List Char} (line : '\n' ∉ cs) (line' : '\n' ∉ front)
    (same : cs ++ '\n' :: behind = front ++ '\n' :: rest) : cs = front := by
  have pieces := congrArg (Text.pieces '\n') same
  rw [Text.pieces_append_cons line, Text.pieces_append_cons line'] at pieces
  exact (List.cons.inj pieces).1

/-- In front of a line feed, a marker line starts where the line is one. -/
theorem isSome_afterMarker?_feed_iff (single : '\n' ∉ marker) (plain : '\r' ∉ marker)
    (line : '\n' ∉ cs) :
    (afterMarker? marker (cs ++ '\n' :: behind)).isSome ↔ IsMarkerLine marker (dropReturn cs) := by
  rw [Option.isSome_iff_exists]
  constructor
  · rintro ⟨rest, found⟩
    obtain ⟨blanks, blank, ⟨same, -⟩ | ⟨lineEnd, ends, same⟩⟩ := afterMarker?_sound found
    · have isMarker : IsMarkerLine marker (cs ++ '\n' :: behind) := ⟨blanks, blank, same⟩
      exact absurd (by simp) (isMarker.notMem_feed single)
    · have isMarker : IsMarkerLine marker (marker ++ blanks) := ⟨blanks, blank, rfl⟩
      have whole := isMarker.notMem_feed single
      cases ends with
      | feed =>
        have same : cs ++ '\n' :: behind = marker ++ blanks ++ '\n' :: rest := by simp [same]
        rw [eq_of_append_feed line whole same, dropReturn_of_isMarkerLine plain isMarker]
        exact isMarker
      | returnFeed =>
        have same : cs ++ '\n' :: behind = marker ++ blanks ++ ['\r'] ++ '\n' :: rest := by
          simp [same]
        have whole' : '\n' ∉ marker ++ blanks ++ ['\r'] := by
          rw [List.mem_append, not_or]
          exact ⟨whole, by decide⟩
        rw [eq_of_append_feed line whole' same, dropReturn_concat]
        exact isMarker
  · rintro ⟨blanks, blank, same⟩
    refine ⟨behind, ?_⟩
    rcases dropReturn_cases cs with bare | returned
    · rw [bare, same, List.append_assoc]
      exact afterMarker?_complete blank .feed behind
    · rw [returned, same, List.append_assoc, List.append_assoc]
      exact afterMarker?_complete blank .returnFeed behind

theorem afterMarker?_end {blanks : List Char} (blank : Blanks blanks) :
    afterMarker? marker (marker ++ blanks) = some [] := by
  rw [afterMarker?, Text.after?_append, Option.bind_some, List.dropWhile_eq_nil_iff.mpr blank]
  rfl

/-- Where the text ends, a marker line starts where the last line is one. -/
theorem isSome_afterMarker?_last_iff (line : '\n' ∉ cs) :
    (afterMarker? marker cs).isSome ↔ IsMarkerLine marker cs := by
  rw [Option.isSome_iff_exists]
  constructor
  · rintro ⟨rest, found⟩
    obtain ⟨blanks, blank, ⟨same, -⟩ | ⟨lineEnd, ends, rfl⟩⟩ := afterMarker?_sound found
    · exact ⟨blanks, blank, same⟩
    · cases ends <;> simp at line
  · rintro ⟨blanks, blank, rfl⟩
    exact ⟨[], afterMarker?_end blank⟩

/-- A marker line at the start of a text is its first one. -/
theorem splitAtMarker?_start {rest : List Char} (found : afterMarker? marker cs = some rest) :
    splitAtMarker? marker true cs = some rest := by
  cases cs with
  | nil => simp [splitAtMarker?, found]
  | cons c cs => simp [splitAtMarker?, found]

/-- A text without a line feed has a marker line when it is one. -/
theorem splitAtMarker?_last (line : '\n' ∉ cs) :
    splitAtMarker? marker true cs = afterMarker? marker cs := by
  cases found : afterMarker? marker cs with
  | some rest => exact splitAtMarker?_start found
  | none =>
    rw [Option.eq_none_iff_forall_ne_some]
    intro rest split
    obtain ⟨front, tail, rfl, behind, ⟨rfl, -⟩ | feed⟩ := splitAtMarker?_sound split
    · rw [List.nil_append, behind] at found
      cases found
    · exact line (List.mem_append_left _ (List.mem_of_getLast? feed))

/-! ## The first marker line -/

/-- A text has a custom section when one of its lines is a marker line. -/
theorem isSome_splitAtMarker?_iff (single : '\n' ∉ marker) (plain : '\r' ∉ marker)
    {parts : List (List Char)} (proper : parts ≠ []) (lines : ∀ part ∈ parts, '\n' ∉ part) :
    (splitAtMarker? marker true (Text.glue '\n' parts)).isSome ↔
      ∃ line ∈ linesOfPieces parts, IsMarkerLine marker line := by
  induction parts using Text.glue.induct with
  | case1 => exact absurd rfl proper
  | case2 last =>
    rw [List.forall_mem_singleton] at lines
    rw [Text.glue, splitAtMarker?_last lines, isSome_afterMarker?_last_iff lines]
    simp [linesOfPieces]
  | case3 piece next others ih =>
    rw [List.forall_mem_cons] at lines
    have here : (afterMarker? marker (piece ++ '\n' :: Text.glue '\n' (next :: others))).isSome ↔
        IsMarkerLine marker (dropReturn piece) :=
      isSome_afterMarker?_feed_iff single plain lines.1
    rw [Text.glue, splitAtMarker?_line lines.1, linesOfPieces, List.exists_mem_cons_iff,
      ← ih (by simp) lines.2, ← here]
    cases afterMarker? marker (piece ++ '\n' :: Text.glue '\n' (next :: others)) <;> simp

/-- Where a line starts behind a line feed and more, it starts behind what is more. -/
theorem StartsLine.behind_feed {front : List Char} (start : StartsLine (front ++ '\n' :: behind)) :
    StartsLine behind := by
  rcases List.eq_nil_or_concat' behind with nothing | ⟨most, last, rfl⟩
  · exact .inl nothing
  · rcases start with nothing | feed
    · simp at nothing
    · rw [← List.cons_append, ← List.append_assoc, List.getLast?_concat] at feed
      exact .inr (by rw [List.getLast?_concat, feed])

/-- Lines in front of a text are passed over when none of them is a marker line. -/
theorem splitAtMarker?_append_of_unmarked (single : '\n' ∉ marker) (plain : '\r' ∉ marker)
    {parts : List (List Char)} (lines : ∀ part ∈ parts, '\n' ∉ part)
    (start : StartsLine (Text.glue '\n' parts))
    (unmarked : ∀ line ∈ linesOfPieces parts, ¬ IsMarkerLine marker line) (rest : List Char) :
    splitAtMarker? marker true (Text.glue '\n' parts ++ rest) =
      splitAtMarker? marker true rest := by
  induction parts using Text.glue.induct with
  | case1 => rfl
  | case2 last =>
    rw [List.forall_mem_singleton] at lines
    rcases start with nothing | feed
    · rw [nothing, List.nil_append]
    · exact absurd (List.mem_of_getLast? feed) lines
  | case3 piece next others ih =>
    rw [List.forall_mem_cons] at lines
    rw [linesOfPieces, List.forall_mem_cons] at unmarked
    have later : StartsLine (Text.glue '\n' (next :: others)) := StartsLine.behind_feed start
    have missing : afterMarker? marker
        (piece ++ '\n' :: (Text.glue '\n' (next :: others) ++ rest)) = none := by
      rw [← Option.not_isSome_iff_eq_none, isSome_afterMarker?_feed_iff single plain lines.1]
      exact unmarked.1
    rw [Text.glue, List.append_assoc, List.cons_append, splitAtMarker?_line lines.1, missing,
      ← ih lines.2 later unmarked.2]
    rfl

end

/-! ## Custom sections -/

/-- For a marker on one line, a text has no custom section when none of its lines is a marker line.
Behind lines that are none, the marker with any blanks behind it is the first marker line: the
custom section is what stands behind its line end, or nothing if the text ends there. -/
theorem customSection?_firstMarker {options : Options} (single : '\n' ∉ options.marker.toList)
    (plain : '\r' ∉ options.marker.toList) :
    (∀ text, customSection? options text = none ↔
      ∀ line ∈ linesOf text, ¬ IsMarkerLine (markerLine options).toList line) ∧
    ∀ front blanks : String, StartsLine front.toList → Blanks blanks.toList →
      (∀ line ∈ linesOf front, ¬ IsMarkerLine (markerLine options).toList line) →
        (∀ lineEnd custom : String, LineEnd lineEnd.toList →
          customSection? options (front ++ markerLine options ++ blanks ++ lineEnd ++ custom) =
            some custom) ∧
        customSection? options (front ++ markerLine options ++ blanks) = some "" := by
  have single' : '\n' ∉ (markerLine options).toList := by simp [markerLine, single]
  have plain' : '\r' ∉ (markerLine options).toList := by simp [markerLine, plain]
  have pieces : ∀ text : String, ∀ part ∈ Text.pieces '\n' text.toList, '\n' ∉ part :=
    fun _ _ => Text.notMem_of_mem_pieces
  constructor
  · intro text
    have found := isSome_splitAtMarker?_iff single' plain' (Text.pieces_ne_nil '\n' text.toList)
      (pieces text)
    rw [Text.glue_pieces] at found
    rw [customSection?, Option.map_eq_none_iff, ← Option.not_isSome_iff_eq_none, found]
    simp [linesOf]
  · intro front blanks start blank unmarked
    have passed := splitAtMarker?_append_of_unmarked single' plain' (pieces front)
      (by rwa [Text.glue_pieces]) unmarked
    simp only [Text.glue_pieces] at passed
    refine ⟨fun lineEnd custom ends => ?_, ?_⟩
    · simp only [customSection?_eq_some_iff, String.toList_append, List.append_assoc, passed]
      exact splitAtMarker?_start (afterMarker?_complete blank ends custom.toList)
    · simp only [customSection?_eq_some_iff, String.toList_append, List.append_assoc, passed]
      exact splitAtMarker?_start (afterMarker?_end blank)

/-- A marker of special characters is found behind a line that has it with a letter behind, and in
front of another marker line. -/
theorem customSection?_firstMarker_special :
    let options : Options := { customMarker := some "a.*b (\t" }
    customSection? options ("x\r\n// a.*b (\tx\n" ++ markerLine options ++ " \t" ++ "\r\n" ++
        "y\n// a.*b (\t\n") = some "y\n// a.*b (\t\n" := by
  intro options
  have split := @customSection?_firstMarker options (by decide) (by decide)
  have start : StartsLine "x\r\n// a.*b (\tx\n".toList := .inr (by decide)
  have blank : Blanks " \t".toList := by
    simp [Blanks, isInlineBlank]
  have unmarked : ∀ line ∈ linesOf "x\r\n// a.*b (\tx\n",
      ¬ IsMarkerLine (markerLine options).toList line := by decide +kernel
  exact (split.2 _ _ start blank unmarked).1 "\r\n" _ .returnFeed

end TypeContracts.Emission
