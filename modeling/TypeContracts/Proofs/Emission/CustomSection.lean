import Mathlib.Data.List.Basic
import TypeContracts.Emission.Marker
import TypeContracts.Proofs.Text.Beginning

/-!
# Where a custom section begins

A marker line is the marker with blanks and a line end behind it, at the start of a line.
The reader finds a marker line exactly where one stands (`afterMarker?_sound`,
`afterMarker?_complete`), and the first one decides.

A text may end with its first marker line (`EndsAtMarker`), as every generated text does.
Whatever is put behind such a text is its custom section (`customSection?_append`). The
statement holds for every marker, also for one that spans several lines: the first
character of a marker line is a slash, so that an earlier marker line cannot end where the
text ends.
-/

set_option autoImplicit false

namespace TypeContracts.Emission

/-! ## Marker lines -/

/-- The characters that end a marker line inside a text. -/
inductive LineEnd : List Char → Prop where
  | feed : LineEnd ['\n']
  | returnFeed : LineEnd ['\r', '\n']

/-- The characters are spaces and tabs. -/
def Blanks (cs : List Char) : Prop := ∀ c ∈ cs, isInlineBlank c = true

/-- A line starts behind the characters. -/
def StartsLine (front : List Char) : Prop := front = [] ∨ front.getLast? = some '\n'

/-- A text ends with its first marker line, and with a line end. -/
structure EndsAtMarker (options : Options) (text : String) : Prop where
  closes : ∃ front blanks lineEnd, text.toList =
      front ++ ((markerLine options).toList ++ (blanks ++ lineEnd)) ∧
    StartsLine front ∧ Blanks blanks ∧ LineEnd lineEnd
  first : customSection? options text = some ""

variable {marker : List Char}

theorem LineEnd.getLast? {lineEnd : List Char} (ends : LineEnd lineEnd) :
    lineEnd.getLast? = some '\n' := by
  cases ends <;> rfl

theorem LineEnd.afterLineEnd? {lineEnd : List Char} (ends : LineEnd lineEnd)
    (rest : List Char) : afterLineEnd? (lineEnd ++ rest) = some rest := by
  cases ends <;> rfl

theorem LineEnd.dropWhile_blank {lineEnd : List Char} (ends : LineEnd lineEnd)
    (rest : List Char) : (lineEnd ++ rest).dropWhile isInlineBlank = lineEnd ++ rest := by
  cases ends <;> rfl

/-- A line ends where the text ends, or at a line end. -/
theorem afterLineEnd?_sound {cs rest : List Char} (found : afterLineEnd? cs = some rest) :
    (cs = [] ∧ rest = []) ∨ ∃ lineEnd, LineEnd lineEnd ∧ cs = lineEnd ++ rest := by
  unfold afterLineEnd? at found
  split at found
  · exact .inl ⟨rfl, (Option.some.inj found).symm⟩
  · exact .inr ⟨_, .feed, by rw [← Option.some.inj found]; rfl⟩
  · exact .inr ⟨_, .returnFeed, by rw [← Option.some.inj found]; rfl⟩
  · cases found

theorem Blanks.dropWhile_append {blanks : List Char} (blank : Blanks blanks)
    (rest : List Char) :
    (blanks ++ rest).dropWhile isInlineBlank = rest.dropWhile isInlineBlank := by
  induction blanks with
  | nil => rfl
  | cons c others ih =>
    rw [List.cons_append, List.dropWhile_cons_of_pos (blank c List.mem_cons_self)]
    exact ih fun d member => blank d (List.mem_cons_of_mem c member)

theorem blanks_takeWhile (cs : List Char) : Blanks (cs.takeWhile isInlineBlank) :=
  List.all_eq_true.mp (List.all_takeWhile (p := isInlineBlank) (l := cs))

/-- The marker with blanks and a line end behind it is a marker line. -/
theorem afterMarker?_complete {blanks lineEnd : List Char} (blank : Blanks blanks)
    (ends : LineEnd lineEnd) (rest : List Char) :
    afterMarker? marker (marker ++ (blanks ++ (lineEnd ++ rest))) = some rest := by
  rw [afterMarker?, Text.after?_append, Option.bind_some, blank.dropWhile_append,
    ends.dropWhile_blank, ends.afterLineEnd?]

/-- A marker line is the marker, then blanks, then a line end or the end of the text. -/
theorem afterMarker?_sound {cs rest : List Char} (found : afterMarker? marker cs = some rest) :
    ∃ blanks, Blanks blanks ∧
      ((cs = marker ++ blanks ∧ rest = []) ∨
        ∃ lineEnd, LineEnd lineEnd ∧ cs = marker ++ (blanks ++ (lineEnd ++ rest))) := by
  obtain ⟨behind, taken, ended⟩ := Option.bind_eq_some_iff.mp found
  have split := Text.after?_eq_some_iff.mp taken
  refine ⟨behind.takeWhile isInlineBlank, blanks_takeWhile behind, ?_⟩
  have pieces := List.takeWhile_append_dropWhile (p := isInlineBlank) (l := behind)
  rcases afterLineEnd?_sound ended with ⟨nothing, rfl⟩ | ⟨lineEnd, ends, same⟩
  · rw [nothing, List.append_nil] at pieces
    exact .inl ⟨by rw [split, pieces], rfl⟩
  · rw [same] at pieces
    exact .inr ⟨lineEnd, ends, by rw [split, pieces]⟩

/-- The marker is used up where a marker line stands. -/
theorem afterMarker?_length {cs rest : List Char} (found : afterMarker? marker cs = some rest) :
    marker.length + rest.length ≤ cs.length := by
  obtain ⟨blanks, _, ⟨rfl, rfl⟩ | ⟨lineEnd, _, rfl⟩⟩ := afterMarker?_sound found
  · simp
  · simp only [List.length_append]
    omega

/-- A line that does not end where a text with a line feed at its end starts does not end
there with more text behind. -/
theorem afterLineEnd?_append_eq_none {cs : List Char} (missing : afterLineEnd? cs = none)
    (closed : cs.getLast? = some '\n') (behind : List Char) :
    afterLineEnd? (cs ++ behind) = none := by
  rw [Option.eq_none_iff_forall_ne_some]
  intro rest found
  rcases afterLineEnd?_sound found with ⟨nothing, _⟩ | ⟨lineEnd, ends, same⟩
  · rw [(List.append_eq_nil_iff.mp nothing).1] at missing
    cases missing
  · match cs, ends with
    | c :: others, .feed =>
      cases same
      cases missing
    | [c], .returnFeed =>
      cases same
      cases closed
    | c :: d :: others, .returnFeed =>
      cases same
      cases missing

/-- Where a text that ends in a line feed has no marker line, more text makes none, unless
the text is shorter than the marker. -/
theorem afterMarker?_append_eq_none {cs : List Char} (missing : afterMarker? marker cs = none)
    (long : marker.length ≤ cs.length) (closed : cs.getLast? = some '\n')
    (behind : List Char) : afterMarker? marker (cs ++ behind) = none := by
  cases taken : Text.after? marker cs with
  | none => rw [afterMarker?, Text.after?_append_eq_none taken long, Option.bind_none]
  | some inner =>
    have split := Text.after?_eq_some_iff.mp taken
    rw [afterMarker?, taken, Option.bind_some] at missing
    have open' : inner.dropWhile isInlineBlank ≠ [] := by
      intro nothing
      rw [nothing] at missing
      cases missing
    have closed' : (inner.dropWhile isInlineBlank).getLast? = some '\n' := by
      rw [split, ← List.takeWhile_append_dropWhile (p := isInlineBlank) (l := inner),
        ← List.append_assoc, List.getLast?_append_of_ne_nil _ open'] at closed
      exact closed
    rw [afterMarker?, split, List.append_assoc, Text.after?_append, Option.bind_some,
      List.dropWhile_append, if_neg (by simpa using open')]
    exact afterLineEnd?_append_eq_none missing closed' behind

/-! ## The first marker line -/

/-- What stands behind a marker line is shorter than the text by the marker at least. -/
theorem splitAtMarker?_length {cs rest : List Char} {atStart : Bool}
    (found : splitAtMarker? marker atStart cs = some rest) :
    marker.length + rest.length ≤ cs.length := by
  induction cs generalizing atStart with
  | nil =>
    rw [splitAtMarker?] at found
    split at found
    · exact afterMarker?_length found
    · cases found
  | cons c cs ih =>
    rw [splitAtMarker?] at found
    split at found
    next custom here =>
      split at here
      · exact Option.some.inj found ▸ afterMarker?_length here
      · cases here
    next => exact Nat.le_succ_of_le (ih found)

/-- A text that ends with a marker line has no earlier one that reaches to its end. -/
theorem afterMarker?_ne_end {slashed : List Char} (slash : marker = '/' :: slashed) {c : Char}
    {front blanks lineEnd : List Char} (blank : Blanks blanks) (ends : LineEnd lineEnd) :
    afterMarker? marker (c :: front ++ (marker ++ (blanks ++ lineEnd))) ≠ some [] := by
  intro found
  have unslashed : ∀ {spaces : List Char}, Blanks spaces → spaces.count '/' = 0 := by
    intro spaces blank
    exact List.count_eq_zero.mpr fun member => absurd (blank '/' member) (by decide)
  have ended : ∀ {lineEnd : List Char}, LineEnd lineEnd → lineEnd.count '/' = 0 := by
    intro lineEnd ends
    cases ends <;> rfl
  obtain ⟨spaces, spaced, whole⟩ := afterMarker?_sound found
  have counted : (c :: front).count '/' = 0 := by
    rcases whole with ⟨same, _⟩ | ⟨lineEnd', ends', same⟩
    · have := congrArg (List.count '/') same
      simp only [List.count_append, unslashed blank, unslashed spaced, ended ends] at this
      omega
    · have := congrArg (List.count '/') same
      simp only [List.count_append, unslashed blank, unslashed spaced, ended ends, ended ends',
        List.count_nil] at this
      omega
  have head : c = '/' := by
    rcases whole with ⟨same, _⟩ | ⟨lineEnd', _, same⟩ <;>
    · rw [slash] at same
      exact (List.cons.inj same).1
  rw [head, List.count_cons_self] at counted
  omega

/-- Whatever stands behind a text that ends with its first marker line is what stands
behind the first marker line of the whole. -/
theorem splitAtMarker?_append {slashed : List Char} (slash : marker = '/' :: slashed)
    {front blanks lineEnd : List Char} (blank : Blanks blanks) (ends : LineEnd lineEnd)
    {atStart : Bool} (start : (front = [] ∧ atStart = true) ∨ front.getLast? = some '\n')
    (first : splitAtMarker? marker atStart (front ++ (marker ++ (blanks ++ lineEnd))) = some [])
    (custom : List Char) :
    splitAtMarker? marker atStart (front ++ (marker ++ (blanks ++ lineEnd)) ++ custom) =
      some custom := by
  -- The induction follows the lines in front; at each of them the reader finds nothing.
  induction front generalizing atStart with
  | nil =>
    obtain ⟨_, rfl⟩ | impossible := start
    · have here : afterMarker? marker (marker ++ (blanks ++ (lineEnd ++ custom))) = some custom :=
        afterMarker?_complete blank ends custom
      rw [slash] at here ⊢
      simp only [List.nil_append, List.cons_append, List.append_assoc] at here ⊢
      rw [splitAtMarker?, if_pos rfl, here]
    · cases impossible
  | cons c front ih =>
    have closed : (c :: front ++ (marker ++ (blanks ++ lineEnd))).getLast? = some '\n' := by
      have proper : lineEnd ≠ [] := by cases ends <;> simp
      rw [← List.append_assoc, ← List.append_assoc, List.getLast?_append_of_ne_nil _ proper,
        ends.getLast?]
    have long : marker.length ≤ (c :: front ++ (marker ++ (blanks ++ lineEnd))).length := by
      simp only [List.length_append]
      omega
    have nothing : (if atStart then
        afterMarker? marker (c :: front ++ (marker ++ (blanks ++ lineEnd))) else none) =
          none := by
      rw [List.cons_append, splitAtMarker?] at first
      split at first
      next rest here =>
        rw [Option.some.inj first] at here
        split at here
        · exact absurd here (afterMarker?_ne_end slash blank ends)
        · cases here
      next missing => exact missing
    have nothing' : (if atStart then
        afterMarker? marker (c :: front ++ (marker ++ (blanks ++ lineEnd)) ++ custom) else none) =
          none := by
      split at nothing
      · rw [if_pos (by assumption)]
        exact afterMarker?_append_eq_none nothing long closed custom
      · rw [if_neg (by assumption)]
    rw [List.cons_append, splitAtMarker?, ← List.cons_append, nothing] at first
    rw [List.cons_append, List.cons_append, splitAtMarker?, ← List.cons_append,
      ← List.cons_append, nothing']
    refine ih ?_ first
    cases front with
    | nil =>
      have feed : c = '\n' := by
        rcases start with ⟨impossible, _⟩ | last
        · cases impossible
        · simpa using last
      exact .inl ⟨rfl, by simp [feed]⟩
    | cons d others =>
      rcases start with ⟨impossible, _⟩ | last
      · cases impossible
      · exact .inr (by simpa using last)

/-- When the first marker line of a whole ends where its front part ends, it is the first
marker line of the front part, which it closes. -/
theorem splitAtMarker?_of_append {slashed : List Char} (slash : marker = '/' :: slashed)
    {front custom : List Char} (closed : front.getLast? = some '\n') {atStart : Bool}
    (found : splitAtMarker? marker atStart (front ++ custom) = some custom) :
    splitAtMarker? marker atStart front = some [] := by
  induction front generalizing atStart with
  | nil => cases closed
  | cons c front ih =>
    rw [List.cons_append, splitAtMarker?, ← List.cons_append] at found
    rw [splitAtMarker?]
    have stable : ∀ rest, (if atStart then afterMarker? marker (c :: front) else none) =
        some rest → rest = [] ∨ (if atStart then afterMarker? marker (c :: front ++ custom)
          else none) = some (rest ++ custom) := by
      intro rest here
      split at here
      · rw [if_pos (by assumption)]
        obtain ⟨blanks, blank, ⟨_, nothing⟩ | ⟨lineEnd, ends, same⟩⟩ := afterMarker?_sound here
        · exact .inl nothing
        · refine .inr ?_
          rw [same, List.append_assoc, List.append_assoc, List.append_assoc]
          exact afterMarker?_complete blank ends (rest ++ custom)
      · cases here
    split
    next rest here =>
      rcases stable rest here with rfl | behind
      · rfl
      · rw [behind] at found
        have := congrArg (fun cs => (cs.getD []).length) found
        simp only [Option.getD_some, List.length_append] at this
        rw [List.eq_nil_of_length_eq_zero (by omega : rest.length = 0)]
    next missing =>
      split at found
      next rest here =>
        rw [Option.some.inj found] at here
        split at here
        · rw [if_pos (by assumption)] at missing
          obtain ⟨blanks, _, ⟨_, nothing⟩ | ⟨lineEnd, ends, same⟩⟩ := afterMarker?_sound here
          · rw [nothing, List.append_nil, missing] at here
            cases here
          · have whole : c :: front ++ custom = marker ++ (blanks ++ lineEnd) ++ custom := by
              rw [same]
              simp only [List.append_assoc]
            have whole : c :: front = marker ++ (blanks ++ (lineEnd ++ [])) := by
              rw [List.append_cancel_right whole, List.append_nil]
            rw [whole, afterMarker?_complete (by assumption) ends] at missing
            cases missing
        · cases here
      next =>
        cases front with
        | nil =>
          have := splitAtMarker?_length found
          rw [slash, List.length_cons, List.nil_append] at this
          omega
        | cons d others => exact ih (by simpa using closed) found

/-- What the reader finds stands behind a marker line at the start of a line. -/
theorem splitAtMarker?_sound {cs rest : List Char} {atStart : Bool}
    (found : splitAtMarker? marker atStart cs = some rest) :
    ∃ front tail, cs = front ++ tail ∧ afterMarker? marker tail = some rest ∧
      ((front = [] ∧ atStart = true) ∨ front.getLast? = some '\n') := by
  induction cs generalizing atStart with
  | nil =>
    rw [splitAtMarker?] at found
    split at found
    · exact ⟨[], [], rfl, found, .inl ⟨rfl, by assumption⟩⟩
    · cases found
  | cons c cs ih =>
    rw [splitAtMarker?] at found
    split at found
    next custom here =>
      split at here
      · exact ⟨[], c :: cs, rfl, by rw [here, found], .inl ⟨rfl, by assumption⟩⟩
      · cases here
    next =>
      obtain ⟨front, tail, rfl, behind, start⟩ := ih found
      refine ⟨c :: front, tail, rfl, behind, .inr ?_⟩
      rcases start with ⟨rfl, feed⟩ | last
      · rw [of_decide_eq_true feed]
        rfl
      · rw [List.getLast?_cons, last]
        rfl

/-! ## Custom sections -/

/-- A marker line begins with a slash. -/
theorem exists_toList_markerLine (options : Options) :
    ∃ slashed, (markerLine options).toList = '/' :: slashed :=
  ⟨'/' :: ' ' :: options.marker.toList, by simp [markerLine, String.toList_append]⟩

theorem customSection?_eq_some_iff {options : Options} {text custom : String} :
    customSection? options text = some custom ↔
      splitAtMarker? (markerLine options).toList true text.toList = some custom.toList := by
  rw [customSection?, Option.map_eq_some_iff]
  constructor
  · rintro ⟨cs, found, rfl⟩
    rw [found, String.toList_ofList]
  · exact fun found => ⟨custom.toList, found, String.ofList_toList⟩

/-- Whatever stands behind a text that ends with its first marker line is the custom
section of the whole. -/
theorem customSection?_append {options : Options} {text : String}
    (ends : EndsAtMarker options text) (custom : String) :
    customSection? options (text ++ custom) = some custom := by
  obtain ⟨slashed, slash⟩ := exists_toList_markerLine options
  obtain ⟨front, blanks, lineEnd, spelled, start, blank, close⟩ := ends.closes
  have first := customSection?_eq_some_iff.mp ends.first
  rw [spelled] at first
  rw [customSection?_eq_some_iff, String.toList_append, spelled]
  refine splitAtMarker?_append slash blank close ?_ first custom.toList
  exact start.imp (fun nothing => ⟨nothing, rfl⟩) id

/-- A text with a custom section is a generated part, then the custom section. The
generated part ends with a marker line, and with a line end unless nothing follows. -/
theorem customSection?_sound {options : Options} {text custom : String}
    (found : customSection? options text = some custom) :
    ∃ front blanks, StartsLine front ∧ Blanks blanks ∧
      ((custom = "" ∧ text.toList = front ++ ((markerLine options).toList ++ blanks)) ∨
        ∃ lineEnd, LineEnd lineEnd ∧ text.toList =
          front ++ ((markerLine options).toList ++ (blanks ++ (lineEnd ++ custom.toList)))) := by
  obtain ⟨front, tail, whole, behind, start⟩ :=
    splitAtMarker?_sound (customSection?_eq_some_iff.mp found)
  obtain ⟨blanks, blank, ⟨same, nothing⟩ | ⟨lineEnd, close, same⟩⟩ := afterMarker?_sound behind
  · exact ⟨front, blanks, start.imp And.left id, blank,
      .inl ⟨String.toList_eq_nil_iff.mp nothing, by rw [whole, same]⟩⟩
  · exact ⟨front, blanks, start.imp And.left id, blank, .inr ⟨lineEnd, close, by rw [whole, same]⟩⟩

end TypeContracts.Emission
