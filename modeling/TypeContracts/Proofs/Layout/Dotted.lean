import Mathlib.Data.List.TakeDrop
import Mathlib.Data.List.TakeWhile
import TypeContracts.Identity
import TypeContracts.Proofs.Text.Beginning
import TypeContracts.Proofs.Text.Pieces
import TypeContracts.Text.Blank

/-!
# Dotted names

Full names are words with dots between them (`Text.Spells`). A word is told from the text, and the
text from its words. What stands in front of the last dot are all words but the last one
(`Identity.spells_namespaceOf`).
-/

set_option autoImplicit false

namespace TypeContracts

namespace Text

/-! ## Words -/

/-- The characters are not none, and they hold no dot, no slash of either kind and no white space.
Every identifier is such a word. -/
def IsWord (word : List Char) : Prop :=
  word ≠ [] ∧ ∀ c ∈ word, c ≠ '.' ∧ c ≠ '/' ∧ c ≠ '\\' ∧ isBlank c = false

/-- The text is put together from words with dots between them. -/
structure Spells (text : String) (words : List (List Char)) : Prop where
  glued : text.toList = glue '.' words
  proper : ∀ word ∈ words, IsWord word

/-- The text is one word or several. -/
def IsDotted (text : String) : Prop := ∃ words, words ≠ [] ∧ Spells text words

variable {text other : String} {words words' : List (List Char)}

-- The quantifier over characters by itself would be decided by trying all characters.
instance (word : List Char) : Decidable (IsWord word) :=
  decidable_of_iff
    (word ≠ [] ∧ word.all fun c => c != '.' && c != '/' && c != '\\' && !isBlank c)
    (by simp [IsWord, and_assoc])

theorem spells_empty : Spells "" [] := ⟨rfl, by simp⟩

theorem IsWord.notMem_dot {word : List Char} (proper : IsWord word) : '.' ∉ word :=
  fun member => (proper.2 '.' member).1 rfl

theorem Spells.pieces (spells : Spells text words) (several : words ≠ []) :
    pieces '.' text.toList = words := by
  rw [spells.glued, pieces_glue several fun word member => (spells.proper word member).notMem_dot]

theorem isDotted_iff : IsDotted text ↔ ∀ word ∈ Text.pieces '.' text.toList, IsWord word := by
  constructor
  · rintro ⟨words, several, spells⟩
    rw [spells.pieces several]
    exact spells.proper
  · intro proper
    exact ⟨_, pieces_ne_nil '.' text.toList, (glue_pieces '.' text.toList).symm, proper⟩

instance (text : String) : Decidable (IsDotted text) := decidable_of_iff' _ isDotted_iff

/-- Only the empty text has no words. -/
theorem Spells.eq_nil_iff (spells : Spells text words) : words = [] ↔ text = "" := by
  constructor
  · rintro rfl
    exact String.toList_eq_nil_iff.mp spells.glued
  · rintro rfl
    by_contra several
    have pieces := spells.pieces several
    rw [← pieces] at spells
    exact (spells.proper [] (by simp [Text.pieces])).1 rfl

/-- The words are told from the text. -/
theorem Spells.unique (spells : Spells text words) (spells' : Spells text words') :
    words = words' := by
  by_cases nothing : words = []
  · rw [nothing, spells'.eq_nil_iff.mpr (spells.eq_nil_iff.mp nothing)]
  · have several : words' ≠ [] := fun nothing' =>
      nothing (spells.eq_nil_iff.mpr (spells'.eq_nil_iff.mp nothing'))
    rw [← spells.pieces nothing, ← spells'.pieces several]

/-- Two texts are the same when their words are. -/
theorem Spells.text_eq_iff (spells : Spells text words) (spells' : Spells other words') :
    text = other ↔ words = words' := by
  constructor
  · rintro rfl
    exact spells.unique spells'
  · rintro rfl
    exact String.toList_injective (spells.glued.trans spells'.glued.symm)

/-- A dot between two texts puts the words of the second behind those of the first. -/
theorem Spells.append (spells : Spells text words) (spells' : Spells other words')
    (several : words ≠ []) (several' : words' ≠ []) :
    Spells (text ++ "." ++ other) (words ++ words') where
  glued := by
    rw [glue_append several several', ← spells.glued, ← spells'.glued]
    simp
  proper := List.forall_mem_append.mpr ⟨spells.proper, spells'.proper⟩

/-- What stands behind a dot of a text of words is a text of words itself. -/
theorem Spells.behind_dot (spells : Spells (text ++ "." ++ other) words) :
    Spells other (Text.pieces '.' other.toList) := by
  have several : words ≠ [] := fun nothing => by
    have empty := congrArg String.toList (spells.eq_nil_iff.mp nothing)
    simp at empty
  have split : (text ++ "." ++ other).toList = text.toList ++ '.' :: other.toList := by simp
  have cut := spells.pieces several
  rw [split, pieces_append] at cut
  refine ⟨(glue_pieces '.' other.toList).symm, fun word member => ?_⟩
  exact spells.proper word (cut ▸ List.mem_append_right _ member)

/-! ## The last dot -/

variable {separator : Char}

theorem cutLast?_of_notMem {cs : List Char} (plain : separator ∉ cs) :
    cutLast? separator cs = none := by
  have all : ∀ c ∈ cs.reverse, decide (c ≠ separator) = true := by
    intro c member
    exact decide_eq_true fun same => plain (same ▸ List.mem_reverse.mp member)
  rw [cutLast?, List.span_eq_takeWhile_dropWhile, List.dropWhile_eq_nil_iff.mpr all]

theorem cutLast?_append (front : List Char) {behind : List Char} (plain : separator ∉ behind) :
    cutLast? separator (front ++ separator :: behind) = some (front, behind) := by
  have all : ∀ c ∈ behind.reverse, decide (c ≠ separator) = true := by
    intro c member
    exact decide_eq_true fun same => plain (same ▸ List.mem_reverse.mp member)
  have turned : (front ++ separator :: behind).reverse =
      behind.reverse ++ separator :: front.reverse := by simp
  rw [cutLast?, turned, List.span_eq_takeWhile_dropWhile, List.takeWhile_append_of_pos all,
    List.dropWhile_append_of_pos all]
  simp

end Text

namespace Identity

/-- The namespace of a full name has all its words but the last. -/
theorem spells_namespaceOf {fullName : String} {front : List (List Char)} {last : List Char}
    (spells : Text.Spells fullName (front ++ [last])) :
    Text.Spells (namespaceOf fullName) front := by
  have proper := List.forall_mem_append.mp spells.proper
  have plain : '.' ∉ last := (proper.2 last (List.mem_singleton_self last)).notMem_dot
  rw [namespaceOf, spells.glued]
  by_cases outside : front = []
  · rw [outside, List.nil_append, Text.glue, Text.cutLast?_of_notMem plain]
    exact Text.spells_empty
  · rw [Text.glue_append outside (by simp), Text.glue, Text.cutLast?_append _ plain]
    exact ⟨by simp, proper.1⟩

end Identity

end TypeContracts
