import TypeContracts.Declaration.Render
import TypeContracts.Proofs.Declaration.Literal
import TypeContracts.Proofs.Result
import TypeContracts.Proofs.Text.Line

/-!
# The words of a declaration

The texts that a tree takes over from elsewhere: names, literals, property names and the names
of the types that it refers to. All else that is written is punctuation. Punctuation holds no
line feed inside a reference or a member, so a reference or a member whose words are on one
line is written on one line (`TypeRef.isLine_render`), and a declaration is written on the
lines that its members or entries are put on, none of which begins with a slash
(`Declaration.lines_render`).
-/

set_option autoImplicit false

namespace TypeContracts

open Text (IsLine isLine_append isLine_join)

/-! ## Words -/

mutual

/-- The words of a reference. -/
def TypeRef.words (names : Naming) : TypeRef → List String
  | .builtin name | .imported name _ | .parameter name => [name]
  | .declared identity => (names identity).toList
  | .array element => element.words names
  | .union options => TypeRef.wordsOfAll names options
  | .intersection parts => TypeRef.wordsOfAll names parts
  | .textLiteral value => [value]
  | .numberLiteral _ | .stray _ => []
  | .generic base arguments => base.words names ++ TypeRef.wordsOfAll names arguments
  | .object members => Member.wordsOfAll names members

/-- The words of several references. -/
def TypeRef.wordsOfAll (names : Naming) : List TypeRef → List String
  | [] => []
  | reference :: rest => reference.words names ++ TypeRef.wordsOfAll names rest

/-- The words of a member. -/
def Member.words (names : Naming) : Member → List String
  | .property name type _ _ => name :: type.words names
  | .index keyName key value => keyName :: (key.words names ++ value.words names)
  | .getter argumentName argument result _ =>
    argumentName :: (argument.words names ++ result.words names)
  | .stray _ => []

/-- The words of several members. -/
def Member.wordsOfAll (names : Naming) : List Member → List String
  | [] => []
  | member :: rest => member.words names ++ Member.wordsOfAll names rest

end

/-- The words of an enumeration entry. -/
def EnumEntry.words (entry : EnumEntry) : List String :=
  match entry.value with
  | .text value => [entry.name, value]
  | .number _ => [entry.name]

/-- The words of a declaration. -/
def Declaration.words (names : Naming) : Declaration → List String
  | .interface _ name members => name :: Member.wordsOfAll names members
  | .alias _ name aliased parameters => name :: (parameters ++ aliased.words names)
  | .enumeration _ name entries => name :: entries.flatMap EnumEntry.words

/-! ## Literals and numbers -/

namespace Literal

/-- A literal is on one line when its text is. -/
theorem isLine_quote {text : String} (line : IsLine text) : IsLine (quote text) := by
  simp only [IsLine, quote, String.toList_ofList, encode, List.mem_append, List.mem_cons,
    List.mem_flatMap, not_or]
  refine ⟨⟨by decide, ?_⟩, by decide⟩
  rintro ⟨c, member, escaped⟩
  have same : '\n' = c := by
    unfold escape at escaped
    split_ifs at escaped <;> simpa using escaped
  exact line (same ▸ member)

/-- A property name is on one line when the name is. -/
theorem isLine_propertyName {name : String} (line : IsLine name) :
    IsLine (propertyName name) := by
  rw [propertyName]
  split_ifs
  · exact line
  · exact isLine_quote line

/-- A number is on one line. -/
theorem isLine_toString (value : Int) : IsLine (toString value) := by
  have plain : ∀ n : Nat, '\n' ∉ (Nat.repr n).toList := fun n member =>
    absurd ((exists_digits n).2 _ member) (by decide)
  rw [IsLine, toList_toString]
  cases value with
  | ofNat n => exact plain n
  | negSucc n =>
    rw [List.mem_cons, not_or]
    exact ⟨by decide, plain (n + 1)⟩

end Literal

/-! ## References and members -/

mutual

/-- A reference is written on one line when its words are on one line. -/
theorem TypeRef.isLine_render (names : Naming) :
    ∀ reference : TypeRef, (∀ word ∈ reference.words names, IsLine word) →
      ∀ text, reference.render names = .ok text → IsLine text
  | .builtin _, lines, _, rfl | .imported _ _, lines, _, rfl | .parameter _, lines, _, rfl =>
    lines _ List.mem_cons_self
  | .declared identity, lines, text, rendered => by
    rw [TypeRef.render] at rendered
    split at rendered
    next name found =>
      cases rendered
      exact lines _ (by simp [TypeRef.words, found])
    next => cases rendered
  | .array element, lines, text, rendered => by
    rw [TypeRef.render] at rendered
    obtain ⟨text, inner, same⟩ := Result.bind_eq_ok_iff.mp rendered
    cases same
    have line := TypeRef.isLine_render names element lines text inner
    rw [isLine_append]
    refine ⟨?_, by decide⟩
    split
    · rw [parenthesised, isLine_append, isLine_append]
      exact ⟨⟨by decide, line⟩, by decide⟩
    · exact line
  | .union options, lines, text, rendered => by
    rw [TypeRef.render] at rendered
    obtain ⟨texts, inner, same⟩ := Result.bind_eq_ok_iff.mp rendered
    cases same
    exact isLine_join (by decide) (TypeRef.isLine_renderAll names options lines texts inner)
  | .intersection parts, lines, text, rendered => by
    rw [TypeRef.render] at rendered
    obtain ⟨texts, inner, same⟩ := Result.bind_eq_ok_iff.mp rendered
    cases same
    exact isLine_join (by decide) (TypeRef.isLine_renderParts names parts lines texts inner)
  | .textLiteral _, lines, _, rfl => Literal.isLine_quote (lines _ List.mem_cons_self)
  | .numberLiteral value, _, _, rfl => Literal.isLine_toString value
  | .generic base arguments, lines, text, rendered => by
    rw [TypeRef.words, List.forall_mem_append] at lines
    rw [TypeRef.render] at rendered
    obtain ⟨texts, inner, rendered⟩ := Result.bind_eq_ok_iff.mp rendered
    obtain ⟨head, outer, same⟩ := Result.bind_eq_ok_iff.mp rendered
    cases same
    simp only [isLine_append]
    exact ⟨⟨⟨TypeRef.isLine_render names base lines.1 head outer, by decide⟩,
      isLine_join (by decide) (TypeRef.isLine_renderAll names arguments lines.2 texts inner)⟩,
      by decide⟩
  | .object [], _, _, rfl => by decide
  | .object (member :: rest), lines, text, rendered => by
    rw [TypeRef.render] at rendered
    · obtain ⟨texts, inner, same⟩ := Result.bind_eq_ok_iff.mp rendered
      cases same
      simp only [isLine_append]
      exact ⟨⟨by decide, isLine_join (by decide)
        (Member.isLine_renderAll names (member :: rest) lines texts inner)⟩, by decide⟩
    · nofun
  | .stray _, _, _, rendered => by
    rw [TypeRef.render] at rendered
    cases rendered

theorem TypeRef.isLine_renderAll (names : Naming) :
    ∀ references : List TypeRef, (∀ word ∈ TypeRef.wordsOfAll names references, IsLine word) →
      ∀ texts, TypeRef.renderAll names references = .ok texts → ∀ text ∈ texts, IsLine text
  | [], _, _, rfl => by simp
  | reference :: rest, lines, texts, rendered => by
    rw [TypeRef.wordsOfAll, List.forall_mem_append] at lines
    rw [TypeRef.renderAll] at rendered
    obtain ⟨text, first, rendered⟩ := Result.bind_eq_ok_iff.mp rendered
    obtain ⟨texts, others, same⟩ := Result.bind_eq_ok_iff.mp rendered
    cases same
    rw [List.forall_mem_cons]
    exact ⟨TypeRef.isLine_render names reference lines.1 text first,
      TypeRef.isLine_renderAll names rest lines.2 texts others⟩

theorem TypeRef.isLine_renderParts (names : Naming) :
    ∀ references : List TypeRef, (∀ word ∈ TypeRef.wordsOfAll names references, IsLine word) →
      ∀ texts, TypeRef.renderParts names references = .ok texts → ∀ text ∈ texts, IsLine text
  | [], _, _, rfl => by simp
  | reference :: rest, lines, texts, rendered => by
    rw [TypeRef.wordsOfAll, List.forall_mem_append] at lines
    rw [TypeRef.renderParts] at rendered
    obtain ⟨text, first, rendered⟩ := Result.bind_eq_ok_iff.mp rendered
    obtain ⟨texts, others, same⟩ := Result.bind_eq_ok_iff.mp rendered
    cases same
    have line := TypeRef.isLine_render names reference lines.1 text first
    rw [List.forall_mem_cons]
    refine ⟨?_, TypeRef.isLine_renderParts names rest lines.2 texts others⟩
    split
    · rw [parenthesised, isLine_append, isLine_append]
      exact ⟨⟨by decide, line⟩, by decide⟩
    · exact line

/-- A member is written on one line when its words are on one line. -/
theorem Member.isLine_render (names : Naming) :
    ∀ member : Member, (∀ word ∈ member.words names, IsLine word) →
      ∀ text, member.render names = .ok text → IsLine text
  | .property name type isOptional isReadonly, lines, text, rendered => by
    rw [Member.words, List.forall_mem_cons] at lines
    rw [Member.render] at rendered
    obtain ⟨value, inner, same⟩ := Result.bind_eq_ok_iff.mp rendered
    cases same
    simp only [isLine_append]
    refine ⟨⟨⟨⟨⟨?_, Literal.isLine_propertyName lines.1⟩, ?_⟩, by decide⟩,
      TypeRef.isLine_render names type lines.2 value inner⟩, by decide⟩
    · cases isReadonly <;> decide
    · cases isOptional <;> decide
  | .index keyName key value, lines, text, rendered => by
    rw [Member.words, List.forall_mem_cons, List.forall_mem_append] at lines
    rw [Member.render] at rendered
    obtain ⟨keyText, first, rendered⟩ := Result.bind_eq_ok_iff.mp rendered
    obtain ⟨valueText, second, same⟩ := Result.bind_eq_ok_iff.mp rendered
    cases same
    simp only [keyed, isLine_append]
    exact ⟨⟨⟨⟨by decide, ⟨lines.1, by decide⟩,
      TypeRef.isLine_render names key lines.2.1 keyText first⟩, by decide⟩, by decide,
      TypeRef.isLine_render names value lines.2.2 valueText second⟩, by decide⟩
  | .getter argumentName argument result isOptional, lines, text, rendered => by
    rw [Member.words, List.forall_mem_cons, List.forall_mem_append] at lines
    rw [Member.render] at rendered
    obtain ⟨argumentText, first, rendered⟩ := Result.bind_eq_ok_iff.mp rendered
    obtain ⟨resultText, second, rendered⟩ := Result.bind_eq_ok_iff.mp rendered
    have key := TypeRef.isLine_render names argument lines.2.1 argumentText first
    have value := TypeRef.isLine_render names result lines.2.2 resultText second
    split at rendered <;> cases rendered <;> simp only [keyed, isLine_append]
    · exact ⟨⟨⟨⟨by decide, ⟨lines.1, by decide⟩, key⟩, by decide⟩, by decide, value⟩, by decide⟩
    · refine ⟨⟨⟨⟨by decide, ⟨lines.1, by decide⟩, key⟩, by decide⟩, ⟨?_, by decide⟩, value⟩,
        by decide⟩
      cases isOptional <;> decide
  | .stray _, _, _, rendered => by
    rw [Member.render] at rendered
    cases rendered

theorem Member.isLine_renderAll (names : Naming) :
    ∀ members : List Member, (∀ word ∈ Member.wordsOfAll names members, IsLine word) →
      ∀ texts, Member.renderAll names members = .ok texts → ∀ text ∈ texts, IsLine text
  | [], _, _, rfl => by simp
  | member :: rest, lines, texts, rendered => by
    rw [Member.wordsOfAll, List.forall_mem_append] at lines
    rw [Member.renderAll] at rendered
    obtain ⟨text, first, rendered⟩ := Result.bind_eq_ok_iff.mp rendered
    obtain ⟨texts, others, same⟩ := Result.bind_eq_ok_iff.mp rendered
    cases same
    rw [List.forall_mem_cons]
    exact ⟨Member.isLine_render names member lines.1 text first,
      Member.isLine_renderAll names rest lines.2 texts others⟩

end

/-! ## Declarations -/

/-- The line is one that a declaration can have: it begins as an export does, as an indented
member does, or as the closing of a declaration does. -/
def DeclarationLine (line : String) : Prop :=
  IsLine line ∧ ∃ first ∈ ['e', ' ', '\x7d'], ∃ rest, line.toList = first :: rest

/-- What stands behind the start of such a line leaves it one. -/
theorem DeclarationLine.append {start rest : String} (begun : DeclarationLine start)
    (line : IsLine rest) : DeclarationLine (start ++ rest) := by
  obtain ⟨front, first, known, behind, starts⟩ := begun
  exact ⟨isLine_append.mpr ⟨front, line⟩, first, known, behind ++ rest.toList,
    by rw [String.toList_append, starts, List.cons_append]⟩

theorem declarationLine_exportType : DeclarationLine "export type " :=
  ⟨by decide, 'e', by simp, _, rfl⟩

theorem declarationLine_exportEnum : DeclarationLine "export enum " :=
  ⟨by decide, 'e', by simp, _, rfl⟩

theorem declarationLine_indent : DeclarationLine indent := ⟨by decide, ' ', by simp, _, rfl⟩

/-- The lines of a text that is joined from such lines. -/
theorem declarationLine_of_mem_join {parts : List String} (proper : parts ≠ [])
    (each : ∀ part ∈ parts, DeclarationLine part) :
    ∀ line ∈ Text.cut '\n' (Text.join "\n" parts), DeclarationLine line := by
  rwa [Text.cut_join_feed proper fun part member => (each part member).1]

/-- A line is the only one of a text that is such a line. -/
theorem declarationLine_of_mem_cut {text : String} (alone : DeclarationLine text) :
    ∀ line ∈ Text.cut '\n' text, DeclarationLine line := by
  rwa [Text.cut_of_isLine alone.1, List.forall_mem_singleton]

/-- An entry is written on such a line when its words are on one line. -/
theorem EnumEntry.declarationLine_render {entry : EnumEntry}
    (lines : ∀ word ∈ entry.words, IsLine word) : DeclarationLine entry.render := by
  obtain ⟨name, value⟩ := entry
  have named : IsLine name := by
    cases value <;> exact lines name List.mem_cons_self
  have written : IsLine value.render := by
    cases value with
    | text value => exact Literal.isLine_quote (lines value (by simp [EnumEntry.words]))
    | number value => exact Literal.isLine_toString value
  exact (((declarationLine_indent.append (Literal.isLine_propertyName named)).append
    (by decide)).append written).append (by decide)

/-- A parameter list is on one line when the parameters are. -/
theorem isLine_renderParameters {parameters : List String}
    (lines : ∀ parameter ∈ parameters, IsLine parameter) :
    IsLine (renderParameters parameters) := by
  rw [renderParameters]
  split
  · decide
  · simp only [isLine_append]
    exact ⟨⟨by decide, isLine_join (by decide) lines⟩, by decide⟩

/-- A declaration whose words are on one line is written on lines of its own. -/
theorem Declaration.lines_render {names : Naming} {declaration : Declaration} {text : String}
    (lines : ∀ word ∈ declaration.words names, IsLine word)
    (rendered : declaration.render names = .ok text) :
    ∀ line ∈ Text.cut '\n' text, DeclarationLine line := by
  cases declaration with
  | interface identity name members =>
    rw [Declaration.words, List.forall_mem_cons] at lines
    have named := declarationLine_exportType.append lines.1
    cases members with
    | nil =>
      cases rendered
      exact declarationLine_of_mem_cut (named.append (by decide))
    | cons member rest =>
      rw [Declaration.render] at rendered
      · obtain ⟨texts, inner, same⟩ := Result.bind_eq_ok_iff.mp rendered
        cases same
        have each := Member.isLine_renderAll names (member :: rest) lines.2 texts inner
        refine declarationLine_of_mem_join (by simp) ?_
        rw [List.cons_append, List.forall_mem_cons, List.forall_mem_append, List.forall_mem_map,
          List.forall_mem_singleton]
        exact ⟨named.append (by decide),
          fun text member => declarationLine_indent.append (each text member),
          by decide, '\x7d', by simp, _, rfl⟩
      · nofun
  | «alias» identity name aliased parameters =>
    rw [Declaration.words, List.forall_mem_cons, List.forall_mem_append] at lines
    rw [Declaration.render] at rendered
    obtain ⟨value, inner, same⟩ := Result.bind_eq_ok_iff.mp rendered
    cases same
    have line := TypeRef.isLine_render names aliased lines.2.2 value inner
    have named := declarationLine_exportType.append lines.1
    exact declarationLine_of_mem_cut
      ((((named.append (isLine_renderParameters lines.2.1)).append (by decide)).append line).append
        (by decide))
  | enumeration identity name entries =>
    rw [Declaration.words, List.forall_mem_cons, List.forall_mem_flatMap] at lines
    cases rendered
    refine declarationLine_of_mem_join (by simp) ?_
    rw [List.cons_append, List.forall_mem_cons, List.forall_mem_append, List.forall_mem_map,
      List.forall_mem_singleton]
    exact ⟨(declarationLine_exportEnum.append lines.1).append (by decide),
      fun entry member => EnumEntry.declarationLine_render (lines.2 entry member),
      by decide, '\x7d', by simp, _, rfl⟩

end TypeContracts
