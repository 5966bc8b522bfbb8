import Mathlib.Data.List.TakeWhile
import Mathlib.Tactic.SplitIfs
import TypeContracts.Declaration.Literal

/-!
# Where names and literals end

A name ends at the first character that cannot belong to it, a text literal at its closing
quote, and a number at the first character that is no digit. So each of them can be told
from what stands behind it: if two of them with something behind are the same characters,
then the two are the same and so is what follows (`encode_append_inj`,
`toList_toString_append_inj`, `toList_propertyName_append_inj`).
-/

set_option autoImplicit false

namespace TypeContracts.Literal

/-! ## Runs of characters -/

/-- A run of characters of one class ends where the class does. -/
theorem append_inj_of_all {class' : Char → Bool} {front front' behind behind' : List Char}
    (all : ∀ c ∈ front, class' c = true) (all' : ∀ c ∈ front', class' c = true)
    (ends : ∀ c ∈ behind.head?, class' c = false) (ends' : ∀ c ∈ behind'.head?, class' c = false)
    (same : front ++ behind = front' ++ behind') : front = front' ∧ behind = behind' := by
  induction front generalizing front' with
  | nil =>
    cases front' with
    | nil => exact ⟨rfl, same⟩
    | cons c rest =>
      rw [List.nil_append, List.cons_append] at same
      subst same
      have outside := ends c rfl
      rw [all' c List.mem_cons_self] at outside
      cases outside
  | cons c rest ih =>
    cases front' with
    | nil =>
      rw [List.nil_append, List.cons_append] at same
      subst same
      have outside := ends' c rfl
      rw [all c List.mem_cons_self] at outside
      cases outside
    | cons c' rest' =>
      rw [List.cons_append, List.cons_append, List.cons.injEq] at same
      obtain ⟨rfl, same⟩ := same
      rw [List.forall_mem_cons] at all all'
      obtain ⟨rfl, rfl⟩ := ih all.2 all'.2 same
      exact ⟨rfl, rfl⟩

/-! ## Text literals -/

theorem escape_append_inj {c c' : Char} {behind behind' : List Char}
    (same : escape c ++ behind = escape c' ++ behind') : c = c' ∧ behind = behind' := by
  unfold escape at same
  split_ifs at same with special special' special'
  · simpa using same
  · simp only [List.cons_append, List.nil_append, List.cons.injEq] at same
    obtain ⟨rfl, _⟩ := same
    simp at special'
  · simp only [List.cons_append, List.nil_append, List.cons.injEq] at same
    obtain ⟨rfl, _⟩ := same
    simp at special
  · simpa using same

theorem escape_append_ne_quote (c : Char) (behind behind' : List Char) :
    escape c ++ behind ≠ '\'' :: behind' := by
  intro same
  unfold escape at same
  split_ifs at same with special
  · simp at same
  · simp only [List.cons_append, List.nil_append, List.cons.injEq] at same
    obtain ⟨rfl, _⟩ := same
    simp at special

/-- Escaped characters end at the first quote that is not escaped. -/
theorem escaped_append_inj {text text' behind behind' : List Char}
    (same : text.flatMap escape ++ '\'' :: behind = text'.flatMap escape ++ '\'' :: behind') :
    text = text' ∧ behind = behind' := by
  induction text generalizing text' with
  | nil =>
    cases text' with
    | nil => exact ⟨rfl, (List.cons.injEq .. ▸ same).2⟩
    | cons c rest =>
      rw [List.flatMap_cons, List.append_assoc] at same
      exact absurd same.symm (escape_append_ne_quote c _ _)
  | cons c rest ih =>
    cases text' with
    | nil =>
      rw [List.flatMap_cons, List.append_assoc] at same
      exact absurd same (escape_append_ne_quote c _ _)
    | cons c' rest' =>
      rw [List.flatMap_cons, List.flatMap_cons, List.append_assoc, List.append_assoc] at same
      obtain ⟨rfl, further⟩ := escape_append_inj same
      obtain ⟨rfl, rfl⟩ := ih further
      exact ⟨rfl, rfl⟩

/-- A text literal ends at its closing quote. -/
theorem encode_append_inj {text text' behind behind' : List Char}
    (same : encode text ++ behind = encode text' ++ behind') : text = text' ∧ behind = behind' := by
  simp only [encode, List.cons_append, List.append_assoc, List.nil_append, List.cons.injEq,
    true_and] at same
  exact escaped_append_inj same

/-! ## Whole numbers -/

/-- The digits of a natural number. -/
theorem exists_digits (n : Nat) :
    (Nat.repr n).toList ≠ [] ∧ ∀ c ∈ (Nat.repr n).toList, c.isDigit = true := by
  rw [Nat.repr_eq_ofList_toDigits, String.toList_ofList]
  exact ⟨Nat.toDigits_ne_nil,
    fun c member => Nat.isDigit_of_mem_toDigits (by decide) (by decide) member⟩

/-- Digits do not begin with a sign. -/
theorem digits_append_ne_sign (n : Nat) (behind rest : List Char) :
    (Nat.repr n).toList ++ behind ≠ '-' :: rest := by
  intro same
  obtain ⟨proper, digital⟩ := exists_digits n
  obtain ⟨c, tail, split⟩ := List.exists_cons_of_ne_nil proper
  rw [split, List.cons_append, List.cons.injEq] at same
  obtain ⟨rfl, _⟩ := same
  exact absurd (digital '-' (split ▸ List.mem_cons_self)) (by decide)

/-- Digits end at the first character that is no digit. -/
theorem digits_append_inj {n n' : Nat} {behind behind' : List Char}
    (ends : ∀ c ∈ behind.head?, c.isDigit = false) (ends' : ∀ c ∈ behind'.head?, c.isDigit = false)
    (same : (Nat.repr n).toList ++ behind = (Nat.repr n').toList ++ behind') :
    n = n' ∧ behind = behind' := by
  obtain ⟨equal, rest⟩ :=
    append_inj_of_all (exists_digits n).2 (exists_digits n').2 ends ends' same
  simp only [Nat.repr_eq_ofList_toDigits, String.toList_ofList] at equal
  have value := congrArg (fun digits => Nat.ofDigitChars 10 digits 0) equal
  simp only [Nat.ofDigitChars_ten_toDigits] at value
  exact ⟨value, rest⟩

/-- The sign of a whole number and the number of its digits. -/
theorem toList_toString (value : Int) :
    (toString value).toList =
      match value with
      | .ofNat n => (Nat.repr n).toList
      | .negSucc n => '-' :: (Nat.repr (n + 1)).toList := by
  cases value with
  | ofNat n => rfl
  | negSucc n =>
    have written : toString (Int.negSucc n) = "-" ++ Nat.repr (n + 1) := rfl
    rw [written, String.toList_append]
    rfl

/-- A number ends at the first character that is no digit. -/
theorem toList_toString_append_inj {value value' : Int} {behind behind' : List Char}
    (ends : ∀ c ∈ behind.head?, c.isDigit = false) (ends' : ∀ c ∈ behind'.head?, c.isDigit = false)
    (same : (toString value).toList ++ behind = (toString value').toList ++ behind') :
    value = value' ∧ behind = behind' := by
  rw [toList_toString, toList_toString] at same
  cases value with
  | ofNat n =>
    cases value' with
    | ofNat n' =>
      obtain ⟨rfl, rest⟩ := digits_append_inj ends ends' same
      exact ⟨rfl, rest⟩
    | negSucc n' => exact absurd same (digits_append_ne_sign n behind _)
  | negSucc n =>
    cases value' with
    | ofNat n' => exact absurd same.symm (digits_append_ne_sign n' behind' _)
    | negSucc n' =>
      obtain ⟨next, rest⟩ := digits_append_inj ends ends' (List.cons.inj same).2
      exact ⟨congrArg Int.negSucc (Nat.succ.inj next), rest⟩

/-! ## Identifiers -/

/-- The characters spell an identifier. -/
def isIdentifier : List Char → Bool
  | [] => false
  | c :: rest => isNameStart c && rest.all isNamePart

theorem isNamePart_of_isNameStart {c : Char} (start : isNameStart c = true) :
    isNamePart c = true := by
  simp only [isNameStart, isNamePart, Char.isAlphanum, Bool.or_eq_true] at start ⊢
  exact start.imp_left fun named => named.imp_left .inl

theorem isNamePart_of_isIdentifier {cs : List Char} (proper : isIdentifier cs = true) :
    ∀ c ∈ cs, isNamePart c = true := by
  cases cs with
  | nil => cases proper
  | cons c rest =>
    simp only [isIdentifier, Bool.and_eq_true, List.all_eq_true] at proper
    rw [List.forall_mem_cons]
    exact ⟨isNamePart_of_isNameStart proper.1, proper.2⟩

/-- An identifier ends at the first character that cannot follow in one. -/
theorem identifier_append_inj {front front' behind behind' : List Char}
    (proper : isIdentifier front = true) (proper' : isIdentifier front' = true)
    (ends : ∀ c ∈ behind.head?, isNamePart c = false)
    (ends' : ∀ c ∈ behind'.head?, isNamePart c = false)
    (same : front ++ behind = front' ++ behind') : front = front' ∧ behind = behind' :=
  append_inj_of_all (isNamePart_of_isIdentifier proper) (isNamePart_of_isIdentifier proper') ends
    ends' same

/-! ## Property names -/

/-- A bare property name is an identifier with at most one line feed behind it. -/
theorem exists_identifier_of_isBare {cs : List Char} (bare : isBare cs = true) :
    ∃ front feed, cs = front ++ feed ∧ isIdentifier front = true ∧ (feed = [] ∨ feed = ['\n']) := by
  cases cs with
  | nil => cases bare
  | cons c rest =>
    simp only [isBare, Bool.and_eq_true, Bool.or_eq_true, beq_iff_eq] at bare
    refine ⟨c :: rest.takeWhile isNamePart, rest.dropWhile isNamePart, ?_, ?_, bare.2⟩
    · rw [List.cons_append, List.takeWhile_append_dropWhile]
    · simp only [isIdentifier, bare.1, Bool.true_and, List.all_eq_true]
      exact fun d member => List.mem_takeWhile_imp member

/-- A property name is a text literal, or an identifier with at most one line feed. -/
theorem toList_propertyName_cases (name : String) :
    (propertyName name).toList = encode name.toList ∨
      ∃ front feed, (propertyName name).toList = front ++ feed ∧ name.toList = front ++ feed ∧
        isIdentifier front = true ∧ (feed = [] ∨ feed = ['\n']) := by
  unfold propertyName
  split_ifs with bare
  · obtain ⟨front, feed, whole, proper, short⟩ := exists_identifier_of_isBare bare
    exact .inr ⟨front, feed, whole, whole, proper, short⟩
  · exact .inl (String.toList_ofList)

/-- The character can stand behind a property name. -/
def endsPropertyName (c : Char) : Bool := c = '?' || c = ':'

/-- What stands behind an identifier in a property name begins with no part of a name. -/
theorem head?_feed_append {feed behind : List Char} (short : feed = [] ∨ feed = ['\n'])
    (ends : ∀ c ∈ behind.head?, endsPropertyName c = true) :
    ∀ c ∈ (feed ++ behind).head?, isNamePart c = false := by
  intro c first
  rcases short with rfl | rfl
  · have mark := ends c first
    simp only [endsPropertyName, Bool.or_eq_true, decide_eq_true_eq] at mark
    rcases mark with rfl | rfl <;> decide
  · obtain rfl : '\n' = c := Option.some.inj first
    decide

theorem encode_append_ne_identifier {text front behind behind' : List Char}
    (proper : isIdentifier front = true) : encode text ++ behind ≠ front ++ behind' := by
  intro same
  cases front with
  | nil => cases proper
  | cons c rest =>
    simp only [encode, List.cons_append, List.cons.injEq] at same
    obtain ⟨rfl, _⟩ := same
    simp only [isIdentifier, Bool.and_eq_true] at proper
    exact absurd proper.1 (by decide)

/-- A property name can be told from a question mark or a colon behind it. -/
theorem toList_propertyName_append_inj {name name' : String} {behind behind' : List Char}
    (ends : ∀ c ∈ behind.head?, endsPropertyName c = true)
    (ends' : ∀ c ∈ behind'.head?, endsPropertyName c = true)
    (same : (propertyName name).toList ++ behind = (propertyName name').toList ++ behind') :
    name = name' ∧ behind = behind' := by
  rcases toList_propertyName_cases name with quoted | ⟨front, feed, bare, whole, proper, short⟩ <;>
    rcases toList_propertyName_cases name' with
      quoted' | ⟨front', feed', bare', whole', proper', short'⟩
  · rw [quoted, quoted'] at same
    obtain ⟨equal, rest⟩ := encode_append_inj same
    exact ⟨String.toList_injective equal, rest⟩
  · rw [quoted, bare', List.append_assoc] at same
    exact absurd same (encode_append_ne_identifier proper')
  · rw [bare, quoted', List.append_assoc] at same
    exact absurd same.symm (encode_append_ne_identifier proper)
  · rw [bare, bare', List.append_assoc, List.append_assoc] at same
    obtain ⟨rfl, further⟩ := identifier_append_inj proper proper' (head?_feed_append short ends)
      (head?_feed_append short' ends') same
    have noFeed : ∀ {cs rest : List Char}, (∀ c ∈ cs.head?, endsPropertyName c = true) →
        cs ≠ '\n' :: rest := by
      rintro cs rest marked rfl
      exact absurd (marked '\n' rfl) (by decide)
    rcases short with rfl | rfl <;> rcases short' with rfl | rfl
    · exact ⟨String.toList_injective (whole.trans whole'.symm), further⟩
    · exact absurd further (noFeed ends)
    · exact absurd further.symm (noFeed ends')
    · exact ⟨String.toList_injective (whole.trans whole'.symm), (List.cons.inj further).2⟩

/-- A property name begins with a quote or as an identifier does. -/
theorem propertyName_append_ne {c : Char} (unnamed : isNameStart c = false) (unquoted : c ≠ '\'')
    (name : String) (behind rest : List Char) :
    (propertyName name).toList ++ behind ≠ c :: rest := by
  intro same
  rcases toList_propertyName_cases name with quoted | ⟨front, feed, bare, _, proper, _⟩
  · rw [quoted] at same
    exact unquoted (List.cons.inj same).1.symm
  · rw [bare, List.append_assoc] at same
    cases front with
    | nil => cases proper
    | cons d tail =>
      obtain ⟨rfl, _⟩ := List.cons.inj same
      simp only [isIdentifier, Bool.and_eq_true] at proper
      rw [proper.1] at unnamed
      cases unnamed

/-- What is marked as read-only is not the name of a property. -/
theorem readonly_append_ne_propertyName {name : String} {behind behind' : List Char}
    (ends : ∀ c ∈ behind'.head?, endsPropertyName c = true) :
    "readonly ".toList ++ behind ≠ (propertyName name).toList ++ behind' := by
  intro same
  rcases toList_propertyName_cases name with quoted | ⟨front, feed, bare, _, proper, short⟩
  · rw [quoted] at same
    exact absurd (List.cons.inj same).1 (by decide)
  · rw [bare, List.append_assoc] at same
    have split : "readonly".toList ++ ' ' :: behind = front ++ (feed ++ behind') := same
    obtain ⟨_, rest⟩ := identifier_append_inj (by decide) proper (by simp [isNamePart])
      (head?_feed_append short ends) split
    rcases short with rfl | rfl
    · rw [List.nil_append] at rest
      subst rest
      exact absurd (ends ' ' rfl) (by decide)
    · exact absurd (List.cons.inj rest).1 (by decide)

end TypeContracts.Literal
