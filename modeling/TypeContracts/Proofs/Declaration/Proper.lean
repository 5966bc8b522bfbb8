import TypeContracts.Declaration.References
import TypeContracts.Declaration.Render

/-!
# Trees that can be rendered

A proper tree has no node of a wrong sort anywhere. Rendering a proper tree can only fail on a
declared type without a name, so a proper tree has a text as soon as every declared type that
it refers to has one (`Declaration.exists_render`).
-/

set_option autoImplicit false

namespace TypeContracts

mutual

/-- No node of the reference is misplaced. -/
def TypeRef.isProper : TypeRef → Bool
  | .array element => element.isProper
  | .union options => TypeRef.allProper options
  | .intersection parts => TypeRef.allProper parts
  | .generic base arguments => base.isProper && TypeRef.allProper arguments
  | .object members => Member.allProper members
  | .stray _ => false
  | .builtin _ | .declared _ | .imported _ _ | .textLiteral _ | .numberLiteral _
  | .parameter _ => true

/-- No node of the references is misplaced. -/
def TypeRef.allProper : List TypeRef → Bool
  | [] => true
  | reference :: rest => reference.isProper && TypeRef.allProper rest

/-- No node of the member is misplaced. -/
def Member.isProper : Member → Bool
  | .property _ type _ _ => type.isProper
  | .index _ key value => key.isProper && value.isProper
  | .getter _ argument result _ => argument.isProper && result.isProper
  | .stray _ => false

/-- No node of the members is misplaced. -/
def Member.allProper : List Member → Bool
  | [] => true
  | member :: rest => member.isProper && Member.allProper rest

end

/-- No node of the declaration is misplaced. -/
def Declaration.isProper : Declaration → Bool
  | .interface _ _ members => Member.allProper members
  | .alias _ _ aliased _ => aliased.isProper
  | .enumeration _ _ _ => true

@[simp] theorem Declaration.isProper_rename (name : String) (declaration : Declaration) :
    (declaration.rename name).isProper = declaration.isProper := by
  cases declaration <;> rfl

/-- Every declared type among the references has a name. -/
def Named (names : Naming) (references : List TypeRef) : Prop :=
  ∀ identity, .declared identity ∈ references → ∃ name, names identity = some name

namespace Named

variable {names : Naming} {reference : TypeRef} {first second : List TypeRef}

theorem left (named : Named names (first ++ second)) : Named names first :=
  fun identity member => named identity (List.mem_append_left _ member)

theorem right (named : Named names (first ++ second)) : Named names second :=
  fun identity member => named identity (List.mem_append_right _ member)

theorem tail (named : Named names (reference :: second)) : Named names second :=
  fun identity member => named identity (List.mem_cons_of_mem _ member)

end Named

mutual

/-- A proper reference to named types has a text. -/
theorem TypeRef.exists_render (names : Naming) :
    ∀ reference : TypeRef, reference.isProper = true → Named names reference.references →
      ∃ text, reference.render names = .ok text
  | .builtin _, _, _ | .imported _ _, _, _ | .textLiteral _, _, _ | .numberLiteral _, _, _
  | .parameter _, _, _ => ⟨_, rfl⟩
  | .declared identity, _, named => by
    obtain ⟨name, found⟩ := named identity List.mem_cons_self
    exact ⟨name, by rw [TypeRef.render, found]⟩
  | .array element, proper, named => by
    obtain ⟨text, rendered⟩ := TypeRef.exists_render names element proper named.tail
    rw [TypeRef.render, rendered]
    exact ⟨_, rfl⟩
  | .union options, proper, named => by
    obtain ⟨texts, rendered⟩ := TypeRef.exists_renderAll names options proper named.tail
    rw [TypeRef.render, rendered]
    exact ⟨_, rfl⟩
  | .intersection parts, proper, named => by
    obtain ⟨texts, rendered⟩ := TypeRef.exists_renderParts names parts proper named.tail
    rw [TypeRef.render, rendered]
    exact ⟨_, rfl⟩
  | .generic base arguments, proper, named => by
    rw [TypeRef.isProper, Bool.and_eq_true] at proper
    obtain ⟨text, rendered⟩ := TypeRef.exists_render names base proper.1 named.tail.left
    obtain ⟨texts, rendered'⟩ :=
      TypeRef.exists_renderAll names arguments proper.2 named.tail.right
    rw [TypeRef.render, rendered, rendered']
    exact ⟨_, rfl⟩
  | .object [], _, _ => ⟨_, rfl⟩
  | .object (member :: rest), proper, named => by
    obtain ⟨texts, rendered⟩ :=
      Member.exists_renderAll names (member :: rest) proper named.tail
    rw [TypeRef.render, rendered]
    · exact ⟨_, rfl⟩
    · nofun

theorem TypeRef.exists_renderAll (names : Naming) :
    ∀ references : List TypeRef, TypeRef.allProper references = true →
      Named names (TypeRef.referencesOfAll references) →
        ∃ texts, TypeRef.renderAll names references = .ok texts
  | [], _, _ => ⟨_, rfl⟩
  | reference :: rest, proper, named => by
    rw [TypeRef.allProper, Bool.and_eq_true] at proper
    obtain ⟨text, rendered⟩ := TypeRef.exists_render names reference proper.1 named.left
    obtain ⟨texts, rendered'⟩ := TypeRef.exists_renderAll names rest proper.2 named.right
    rw [TypeRef.renderAll, rendered, rendered']
    exact ⟨_, rfl⟩

theorem TypeRef.exists_renderParts (names : Naming) :
    ∀ references : List TypeRef, TypeRef.allProper references = true →
      Named names (TypeRef.referencesOfAll references) →
        ∃ texts, TypeRef.renderParts names references = .ok texts
  | [], _, _ => ⟨_, rfl⟩
  | reference :: rest, proper, named => by
    rw [TypeRef.allProper, Bool.and_eq_true] at proper
    obtain ⟨text, rendered⟩ := TypeRef.exists_render names reference proper.1 named.left
    obtain ⟨texts, rendered'⟩ := TypeRef.exists_renderParts names rest proper.2 named.right
    rw [TypeRef.renderParts, rendered, rendered']
    exact ⟨_, rfl⟩

/-- A proper member with named types has a text. -/
theorem Member.exists_render (names : Naming) :
    ∀ member : Member, member.isProper = true → Named names member.references →
      ∃ text, member.render names = .ok text
  | .property _ type _ _, proper, named => by
    obtain ⟨text, rendered⟩ := TypeRef.exists_render names type proper named
    rw [Member.render, rendered]
    exact ⟨_, rfl⟩
  | .index _ key value, proper, named => by
    rw [Member.isProper, Bool.and_eq_true] at proper
    obtain ⟨text, rendered⟩ := TypeRef.exists_render names key proper.1 named.left
    obtain ⟨text', rendered'⟩ := TypeRef.exists_render names value proper.2 named.right
    rw [Member.render, rendered, rendered']
    exact ⟨_, rfl⟩
  | .getter _ argument result _, proper, named => by
    rw [Member.isProper, Bool.and_eq_true] at proper
    obtain ⟨text, rendered⟩ := TypeRef.exists_render names argument proper.1 named.left
    obtain ⟨text', rendered'⟩ := TypeRef.exists_render names result proper.2 named.right
    rw [Member.render, rendered, rendered']
    simp only [bind, Except.bind]
    split
    · exact ⟨_, rfl⟩
    · exact ⟨_, rfl⟩

theorem Member.exists_renderAll (names : Naming) :
    ∀ members : List Member, Member.allProper members = true →
      Named names (Member.referencesOfAll members) →
        ∃ texts, Member.renderAll names members = .ok texts
  | [], _, _ => ⟨_, rfl⟩
  | member :: rest, proper, named => by
    rw [Member.allProper, Bool.and_eq_true] at proper
    obtain ⟨text, rendered⟩ := Member.exists_render names member proper.1 named.left
    obtain ⟨texts, rendered'⟩ := Member.exists_renderAll names rest proper.2 named.right
    rw [Member.renderAll, rendered, rendered']
    exact ⟨_, rfl⟩

end

/-- A proper declaration with named types has a text. -/
theorem Declaration.exists_render {names : Naming} {declaration : Declaration}
    (proper : declaration.isProper = true) (named : Named names declaration.references) :
    ∃ text, declaration.render names = .ok text := by
  cases declaration with
  | interface identity name members =>
    cases members with
    | nil => exact ⟨_, rfl⟩
    | cons member rest =>
      obtain ⟨texts, rendered⟩ := Member.exists_renderAll names (member :: rest) proper named
      rw [Declaration.render, rendered]
      · exact ⟨_, rfl⟩
      · nofun
  | «alias» identity name aliased parameters =>
    obtain ⟨text, rendered⟩ := TypeRef.exists_render names aliased proper named
    rw [Declaration.render, rendered]
    exact ⟨_, rfl⟩
  | enumeration identity name entries => exact ⟨_, rfl⟩

end TypeContracts
