import TypeContracts.Layout
import TypeContracts.Proofs.Layout.Dotted
import TypeContracts.Proofs.UnitPath.Settled

/-!
# Which declarations share a file

Namespaces and names are taken as words between dots. A root namespace is left out of the paths, so
that a namespace inside the root and one of the same name outside it have one directory, and
nothing else has (`Layout.insideRoot_eq_iff`). A namespace of which nothing is left goes to the
default file, which can have the name of another namespace. The segments of a path are the words
of the directory, and the name of the declaration without an extension
(`Layout.segments_perType`).

From this the declarations that share a file are told in either layout (`Layout.path_eq_iff`).
-/

set_option autoImplicit false

namespace TypeContracts

namespace Text

/-! ## Words as segments -/

variable {text other : String} {words words' : List (List Char)}

/-- The characters hold no slash of either kind and no white space. -/
def IsPlain (cs : List Char) : Prop := ∀ c ∈ cs, c ≠ '/' ∧ c ≠ '\\' ∧ isBlank c = false

theorem IsWord.isPlain {word : List Char} (proper : IsWord word) : IsPlain word :=
  fun c member => (proper.2 c member).2

theorem Spells.isPlain (spells : Spells text words) : IsPlain text.toList := by
  intro c member
  rw [spells.glued] at member
  rcases mem_of_mem_glue member with rfl | ⟨word, inside, here⟩
  · decide
  · exact (spells.proper word inside).isPlain c here

/-- A text of words begins with a character of a word. -/
theorem Spells.head?_ne_dot (spells : Spells text words) : text.toList.head? ≠ some '.' := by
  rw [spells.glued]
  rcases words with _ | ⟨_ | ⟨c, cs⟩, rest⟩
  · simp [glue]
  · exact absurd rfl (spells.proper [] List.mem_cons_self).1
  · have other := (spells.proper (c :: cs) List.mem_cons_self).2 c List.mem_cons_self
    cases rest <;> simp [glue, other.1]

end Text

namespace UnitPath

/-- The extension is taken from what stands behind the last slash. -/
theorem dropExtension_append_slash (front last : List Char) :
    dropExtension (front ++ '/' :: last) = front ++ '/' :: dropExtension last := by
  have turned : (front ++ '/' :: last).reverse = last.reverse ++ '/' :: front.reverse := by simp
  rw [dropExtension, dropExtension, turned, Text.after?_append_cons (by decide)]
  cases Text.after? ['s', 't', '.'] last.reverse <;> simp

theorem dropExtension_glue (front : List Segment) (last : Segment) :
    dropExtension (Text.glue '/' (front ++ [last])) =
      Text.glue '/' (front ++ [dropExtension last]) := by
  by_cases nothing : front = []
  · rw [nothing]
    rfl
  · rw [Text.glue_append nothing (by simp), Text.glue_append nothing (by simp), Text.glue,
      Text.glue, dropExtension_append_slash]

/-- A name that does not begin with a dot has something in front of its extension. -/
theorem isKept_dropExtension {name : List Char} (proper : name ≠ [])
    (begins : name.head? ≠ some '.') : isKept (dropExtension name) = true := by
  have kept : dropExtension name ≠ [] ∧ dropExtension name ≠ ['.'] := by
    rcases dropExtension_cases name with same | split
    · rw [same]
      exact ⟨proper, fun dot => begins (by rw [dot]; rfl)⟩
    · constructor <;> intro rest <;> rw [split, rest] at begins <;> exact begins rfl
  simpa [isKept] using kept

theorem dropExtension_of_isWord {word : List Char} (proper : Text.IsWord word) :
    dropExtension word = word := by
  refine (dropExtension_cases word).resolve_right fun split => proper.notMem_dot ?_
  rw [split]
  simp

theorem isKept_of_isWord {word : List Char} (proper : Text.IsWord word) : isKept word = true := by
  rw [← dropExtension_of_isWord proper]
  exact isKept_dropExtension proper.1 fun begins => proper.notMem_dot (List.mem_of_head? begins)

/-- Plain segments that are put together are cut again, and the last one loses its extension. -/
theorem segments_glue {front : List Segment} {last : Segment}
    (plain : ∀ segment ∈ front ++ [last], Text.IsPlain segment)
    (kept : ∀ segment ∈ front ++ [dropExtension last], isKept segment = true) :
    segments (Text.glue '/' (front ++ [last])) = front ++ [dropExtension last] := by
  have each : ∀ c ∈ Text.glue '/' (front ++ [last]), c ≠ '\\' ∧ Text.isBlank c = false := by
    intro c member
    rcases Text.mem_of_mem_glue member with rfl | ⟨part, inside, here⟩
    · decide
    · exact (plain part inside c here).2
  have trimmed : Text.IsTrimmed (Text.glue '/' (front ++ [last])) :=
    ⟨fun c member => (each c (List.mem_of_head? member)).2,
      fun c member => (each c (List.mem_of_getLast? member)).2⟩
  have whole : ∀ segment ∈ front ++ [dropExtension last], '/' ∉ segment := by
    rw [List.forall_mem_append, List.forall_mem_singleton] at plain ⊢
    exact ⟨fun segment member slash => (plain.1 segment member '/' slash).1 rfl,
      fun slash => (plain.2 '/' ((dropExtension_sublist last).mem slash)).1 rfl⟩
  rw [segments, withSlashes_eq_self fun member => (each _ member).1 rfl,
    Text.trim_eq_self_iff.mpr trimmed, dropExtension_glue, Text.pieces_glue (by simp) whole,
    List.filter_eq_self.mpr kept]

end UnitPath

namespace Layout

open Text (IsDotted)
open UnitPath (Segment normalise segments dropExtension)

variable {root : Option String} {space other : String} {words words' : List Segment}

/-! ## Leaving out the root -/

/-- The namespace of the same name inside a root. -/
def nested (within space : String) : String :=
  if space = "" then within else within ++ "." ++ space

/-- The second namespace is outside the root, and the first one is the namespace of the same name
inside it. -/
def Joins (root : Option String) (space other : String) : Prop :=
  ∃ within ∈ root, insideRoot root other = other ∧ space = nested within other

instance (root : Option String) (space other : String) : Decidable (Joins root space other) :=
  inferInstanceAs
    (Decidable (∃ within ∈ root, insideRoot root other = other ∧ space = nested within other))

/-- The namespace is none, or the root itself. -/
def AtTop (root : Option String) (space : String) : Prop := space = "" ∨ root = some space

instance (root : Option String) (space : String) : Decidable (AtTop root space) :=
  inferInstanceAs (Decidable (space = "" ∨ root = some space))

theorem insideRoot_nested {within : String} (proper : within ≠ "") (space : String) :
    insideRoot (some within) (nested within space) = space := by
  have given : ¬ within.isEmpty = true := by simpa using proper
  by_cases nothing : space = ""
  · simp [insideRoot, nested, nothing]
  · have longer : within ++ "." ++ space ≠ within := by
      intro same
      have lengths := congrArg String.length same
      have dot : ".".length = 1 := rfl
      rw [String.length_append, String.length_append] at lengths
      omega
    have dropped : Text.dropStart? (within ++ ".") (within ++ "." ++ space) = some space :=
      Text.dropStart?_eq_some_iff.mpr rfl
    simp only [insideRoot, nested, if_neg nothing, if_neg given, if_neg longer, dropped,
      Option.getD_some]

/-- A namespace stays as it is, or it is inside the root. -/
theorem insideRoot_cases (spells : Text.Spells space words) : insideRoot root space = space ∨
    ∃ within, root = some within ∧ space = nested within (insideRoot root space) ∧
      ∃ rest, Text.Spells (insideRoot root space) rest := by
  cases root with
  | none => exact .inl rfl
  | some within =>
    rw [insideRoot]
    split_ifs with empty itself
    · exact .inl rfl
    · exact .inr ⟨within, rfl, itself, [], Text.spells_empty⟩
    · cases dropped : Text.dropStart? (within ++ ".") space with
      | none => exact .inl rfl
      | some rest =>
        obtain rfl := Text.dropStart?_eq_some_iff.mp dropped
        have behind := spells.behind_dot
        have given : rest ≠ "" := by
          rintro rfl
          exact (behind.proper [] (by simp [Text.pieces])).1 rfl
        exact .inr ⟨within, rfl, by rw [Option.getD_some, nested, if_neg given], _, behind⟩

theorem exists_spells_insideRoot (root : Option String) (spells : Text.Spells space words) :
    ∃ rest, Text.Spells (insideRoot root space) rest := by
  rcases @insideRoot_cases root _ _ spells with stays | ⟨_, _, _, inside⟩
  · exact ⟨words, by rwa [stays]⟩
  · exact inside

/-- Two namespaces have the same rest inside the root exactly when they are the same, or when one is
outside the root and the other is the namespace of the same name inside it. -/
theorem insideRoot_eq_iff (proper : root ≠ some "") (spells : Text.Spells space words)
    (spells' : Text.Spells other words') : insideRoot root space = insideRoot root other ↔
      space = other ∨ Joins root space other ∨ Joins root other space := by
  constructor
  · intro same
    rcases insideRoot_cases spells with stays | ⟨within, rooted, inside, -⟩ <;>
      rcases insideRoot_cases spells' with stays' | ⟨within', rooted', inside', -⟩
    · exact .inl (stays.symm.trans (same.trans stays'))
    · exact .inr (.inr ⟨within', rooted', stays, by rw [← stays, same, ← inside']⟩)
    · exact .inr (.inl ⟨within, rooted, stays', by rw [← stays', ← same, ← inside]⟩)
    · obtain rfl : within = within' := Option.some.inj (rooted.symm.trans rooted')
      exact .inl (by rw [inside, same, ← inside'])
  · rintro (rfl | ⟨within, rfl, stays, rfl⟩ | ⟨within, rfl, stays, rfl⟩)
    · rfl
    · rw [insideRoot_nested (fun empty => proper (congrArg some empty)), stays]
    · rw [insideRoot_nested (fun empty => proper (congrArg some empty)), stays]

/-- Nothing is left of a namespace exactly when it is none or the root itself. -/
theorem insideRoot_eq_empty_iff (proper : root ≠ some "") (spells : Text.Spells space words) :
    insideRoot root space = "" ↔ AtTop root space := by
  constructor
  · intro nothing
    rcases @insideRoot_cases root _ _ spells with stays | ⟨within, rooted, inside, -⟩
    · exact .inl (stays.symm.trans nothing)
    · rw [nothing, nested, if_pos rfl] at inside
      exact .inr (inside ▸ rooted)
  · rintro (rfl | rfl)
    · cases root with
      | none => rfl
      | some within =>
        have missing : Text.dropStart? (within ++ ".") "" = none := by
          rw [Option.eq_none_iff_forall_ne_some]
          intro rest found
          have split := congrArg String.toList (Text.dropStart?_eq_some_iff.mp found)
          simp at split
        simp [insideRoot, missing]
    · have within := insideRoot_nested (fun empty => proper (congrArg some empty)) ""
      rwa [nested, if_pos rfl] at within

/-! ## The segments of a path -/

/-- The directory of a namespace has a slash wherever the namespace has a dot. -/
theorem toList_directory (spells : Text.Spells (insideRoot root space) words) :
    (directory root space).toList = Text.glue '/' words := by
  have turned : ∀ {words : List Segment}, (∀ word ∈ words, Text.IsWord word) →
      (Text.glue '.' words).map (fun c => if c = '.' then '/' else c) = Text.glue '/' words := by
    intro words proper
    have stays : ∀ word, Text.IsWord word →
        word.map (fun c => if c = '.' then '/' else c) = word := by
      intro word isWord
      conv_rhs => rw [← List.map_id word]
      exact List.map_congr_left fun c member => if_neg (isWord.2 c member).1
    induction words using Text.glue.induct with
    | case1 => rfl
    | case2 word => exact stays word (proper word List.mem_cons_self)
    | case3 word next others ih =>
      rw [List.forall_mem_cons] at proper
      rw [Text.glue, Text.glue, List.map_append, List.map_cons, stays word proper.1, ih proper.2]
      rfl
  rw [directory, String.toList_map, spells.glued]
  exact turned spells.proper

/-- The segments of a directory are the words of the namespace inside the root. -/
theorem segments_directory (spells : Text.Spells (insideRoot root space) words) :
    segments (directory root space).toList = words := by
  rw [toList_directory spells]
  rcases List.eq_nil_or_concat' words with rfl | ⟨front, last, rfl⟩
  · rfl
  · have proper := spells.proper
    have bare := UnitPath.dropExtension_of_isWord (proper last (by simp))
    rw [UnitPath.segments_glue (fun word member => (proper word member).isPlain), bare]
    rw [bare]
    exact fun word member => UnitPath.isKept_of_isWord (proper word member)

theorem normalise_directory (spells : Text.Spells (insideRoot root space) words) :
    normalise (directory root space) = directory root space := by
  rw [normalise, segments_directory spells, UnitPath.ofSegments, ← toList_directory spells,
    String.ofList_toList]

theorem directory_eq_iff (spells : Text.Spells (insideRoot root space) words)
    (spells' : Text.Spells (insideRoot root other) words') :
    directory root space = directory root other ↔
      insideRoot root space = insideRoot root other := by
  constructor
  · intro same
    rw [spells.text_eq_iff spells', ← segments_directory spells, same, segments_directory spells']
  · intro same
    rw [directory, directory, same]

theorem directory_eq_empty_iff : directory root space = "" ↔ insideRoot root space = "" := by
  rw [directory, ← String.toList_eq_nil_iff, String.toList_map, List.map_eq_nil_iff,
    String.toList_eq_nil_iff]

/-- The segments of the path of a declaration with a file of its own are the words of its namespace
inside the root, and its name without an extension. -/
theorem segments_perType {declaration : Declaration} {names : List Segment}
    (spells : Text.Spells (insideRoot root declaration.identity.space) words)
    (named : Text.Spells declaration.name names) (several : names ≠ []) :
    segments (perType root declaration).toList =
      words ++ [dropExtension declaration.name.toList] := by
  have proper : declaration.name.toList ≠ [] := fun empty =>
    several (named.eq_nil_iff.mpr (String.toList_eq_nil_iff.mp empty))
  have whole : (perType root declaration).toList =
      Text.glue '/' (words ++ [declaration.name.toList]) := by
    simp only [perType, String.isEmpty_iff, directory_eq_empty_iff, ← spells.eq_nil_iff]
    split_ifs with outside
    · rw [outside]
      rfl
    · rw [Text.glue_append outside (by simp), ← toList_directory spells, Text.glue]
      simp
  rw [whole]
  refine UnitPath.segments_glue ?_ ?_
  · rw [List.forall_mem_append, List.forall_mem_singleton]
    exact ⟨fun word member => (spells.proper word member).isPlain, named.isPlain⟩
  · rw [List.forall_mem_append, List.forall_mem_singleton]
    exact ⟨fun word member => UnitPath.isKept_of_isWord (spells.proper word member),
      UnitPath.isKept_dropExtension proper named.head?_ne_dot⟩

/-! ## Shared files -/

/-- The full name and the name of the declaration are words between dots. -/
structure IsNamed (declaration : Declaration) : Prop where
  full : IsDotted declaration.identity.fullName
  short : IsDotted declaration.name

/-- The namespaces are the same, or one is outside the root and the other is the namespace of the
same name inside it. -/
def SameDirectory (root : Option String) (space other : String) : Prop :=
  space = other ∨ Joins root space other ∨ Joins root other space

/-- The first namespace goes to the default file, and the second one has a file under its name. -/
def SharesDefault (root : Option String) (fallback space other : String) : Prop :=
  AtTop root space ∧ directory root other = normalise fallback

instance (declaration : Declaration) : Decidable (IsNamed declaration) :=
  decidable_of_iff (IsDotted declaration.identity.fullName ∧ IsDotted declaration.name)
    ⟨fun ⟨full, short⟩ => ⟨full, short⟩, fun named => ⟨named.full, named.short⟩⟩

instance (root : Option String) (space other : String) :
    Decidable (SameDirectory root space other) :=
  inferInstanceAs (Decidable (space = other ∨ Joins root space other ∨ Joins root other space))

instance (root : Option String) (fallback space other : String) :
    Decidable (SharesDefault root fallback space other) :=
  inferInstanceAs (Decidable (AtTop root space ∧ directory root other = normalise fallback))

theorem IsNamed.exists_spells {declaration : Declaration} (named : IsNamed declaration) :
    ∃ words, Text.Spells declaration.identity.space words := by
  obtain ⟨words, several, spells⟩ := named.full
  obtain ⟨front, last, rfl⟩ := (List.eq_nil_or_concat' words).resolve_left several
  exact ⟨front, Identity.spells_namespaceOf spells⟩

/-- With one file per namespace, a namespace has the file of its directory, or the default file when
nothing is left of it. -/
theorem normalise_perNamespace (fallback : String) {declaration : Declaration}
    (spells : Text.Spells (insideRoot root declaration.identity.space) words) :
    normalise (perNamespace root fallback declaration) =
      if insideRoot root declaration.identity.space = "" then normalise fallback
      else directory root declaration.identity.space := by
  simp only [perNamespace, String.isEmpty_iff, directory_eq_empty_iff]
  split_ifs with top
  · rfl
  · exact normalise_directory spells

/-- With one file per namespace, a declaration goes to the default file when it is outside any
namespace or directly in the root, or when the directory of its namespace has the same path. Two
declarations share a file when their namespaces have the same directory, or when one goes to the
default file and the other has a file of this name. With one file per declaration, they share it
when their namespaces have the same directory and their names differ by an extension at most. -/
theorem path_eq_iff (fallback : String) (proper : root ≠ some "") {first second : Declaration}
    (named : IsNamed first) (named' : IsNamed second) :
    (normalise (perNamespace root fallback first) = normalise fallback ↔
      AtTop root first.identity.space ∨ directory root first.identity.space = normalise fallback) ∧
    (normalise (perNamespace root fallback first) = normalise (perNamespace root fallback second) ↔
      SameDirectory root first.identity.space second.identity.space ∨
        SharesDefault root fallback first.identity.space second.identity.space ∨
        SharesDefault root fallback second.identity.space first.identity.space) ∧
    (normalise (perType root first) = normalise (perType root second) ↔
      SameDirectory root first.identity.space second.identity.space ∧
        dropExtension first.name.toList = dropExtension second.name.toList) := by
  obtain ⟨words, spells⟩ := named.exists_spells
  obtain ⟨words', spells'⟩ := named'.exists_spells
  obtain ⟨rest, inside⟩ := exists_spells_insideRoot root spells
  obtain ⟨rest', inside'⟩ := exists_spells_insideRoot root spells'
  simp only [SameDirectory, SharesDefault, ← insideRoot_eq_iff proper spells spells',
    ← insideRoot_eq_empty_iff proper spells, ← insideRoot_eq_empty_iff proper spells',
    normalise_perNamespace fallback inside, normalise_perNamespace fallback inside']
  refine ⟨?_, ?_, ?_⟩
  · split_ifs with top <;> simp [top]
  · rw [← directory_eq_iff inside inside']
    simp only [← directory_eq_empty_iff]
    split_ifs with top top' top'
    · simp [top, top']
    · simp only [top, top', Ne.symm top', true_and, false_and, false_or, or_false]
      exact eq_comm
    · simp [top, top']
    · simp [top, top']
  · obtain ⟨names, several, spelled⟩ := named.short
    obtain ⟨names', several', spelled'⟩ := named'.short
    rw [UnitPath.normalise_eq_iff, segments_perType inside spelled several,
      segments_perType inside' spelled' several', inside.text_eq_iff inside']
    constructor
    · intro same
      obtain ⟨front, last⟩ := List.append_inj' same rfl
      exact ⟨front, (List.cons.inj last).1⟩
    · rintro ⟨rfl, last⟩
      rw [last]

/-- The root is left out where it is a whole word, and the two declarations stay apart. -/
theorem path_eq_iff_application :
    let first : Declaration := .interface { fullName := "app.models.User" } "User" []
    let second : Declaration := .interface { fullName := "application.models.User" } "User" []
    normalise (perNamespace (some "app") "index" first) ≠
        normalise (perNamespace (some "app") "index" second) ∧
      normalise (perType (some "app") first) ≠ normalise (perType (some "app") second) := by
  intro first second
  have named : IsNamed first := by decide +kernel
  have named' : IsNamed second := by decide +kernel
  have apart := @path_eq_iff (some "app") "index" (by decide) first second named named'
  rw [Ne, Ne, apart.2.1, apart.2.2]
  decide +kernel

/-- A namespace inside the root meets one of the same name outside it, in either layout. The default
file is that of a namespace of its name. A name with the extension meets the name without it. -/
theorem path_eq_iff_meeting :
    let inside : Declaration := .interface { fullName := "app.models.User" } "User" []
    let outside : Declaration := .interface { fullName := "models.User" } "User" []
    let index : Declaration := .interface { fullName := "index.Role" } "Role" []
    let bare : Declaration := .interface { fullName := "Page" } "Page" []
    let extended : Declaration := .interface { fullName := "Leaf" } "Page.ts" []
    (inside.identity.space ≠ outside.identity.space ∧
      normalise (perType (some "app") inside) = normalise (perType (some "app") outside) ∧
      normalise (perNamespace (some "app") "index" inside) =
        normalise (perNamespace (some "app") "index" outside)) ∧
    (index.identity.space ≠ bare.identity.space ∧
      normalise (perNamespace none "index" index) = normalise (perNamespace none "index" bare)) ∧
    (bare.name ≠ extended.name ∧
      normalise (perType none bare) = normalise (perType none extended)) := by
  decide +kernel

end Layout

end TypeContracts
