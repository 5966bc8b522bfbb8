import TypeContracts.Proofs.Emission.Merge

/-!
# Texts written one after another

A file is generated again and again. Every write keeps the custom section as it is read from the
file, and reads it behind the first marker line, which is the last line of the text written before.
So the custom section that the file had at first goes through all writes unchanged
(`readBack_writeEach`), whatever marker lines it holds itself, and only the last text is left in
front of it. A file without a marker line is refused every time and stays as it is
(`writeEach_handWritten`).

The text of a file is compared as it is read back, with unified line ends: a write that finds its
text already there leaves the line ends of the file alone, while any other write unifies them.
-/

set_option autoImplicit false

namespace TypeContracts

/-! ## Files -/

/-- The text of a file as it is read back, with unified line ends. -/
def FileTree.readBack (tree : FileTree) (target : Location) : Except FileFault String :=
  (tree.readText target).map Text.unified

theorem FileTree.readBack_eq_ok_iff {tree : FileTree} {target : Location} {text : String} :
    tree.readBack target = .ok text ↔
      ∃ existing, tree.readText target = .ok existing ∧ Text.unified existing = text := by
  unfold readBack
  cases tree.readText target <;> simp [Except.map]

/-- A file whose text is read can be written. -/
theorem FileTree.exists_write_of_readText {tree : FileTree} {target : Location} {existing : String}
    (read : tree.readText target = .ok existing) (content : Content) :
    ∃ written, tree.write target content = .ok written := by
  obtain ⟨place, resolved, here⟩ := readText_eq_ok_iff.mp read
  exact exists_write_iff.mpr ⟨place, resolved, by simp [here]⟩

namespace Emission

variable {options : Options} {tree : FileTree} {target : Location} {text : String}

/-! ## Well-marked texts -/

/-- A text as it is generated: without a carriage return, and with its first marker line, which a
line end closes, as its last line. -/
structure WellMarked (options : Options) (text : String) : Prop extends
    EndsAtMarker options text where
  plain : '\r' ∉ text.toList

/-- The custom section that a write finds: that of the file as it is read, nothing where no file
is, and none in a hand-written file. -/
def kept? (options : Options) (prior : Option String) : Option String :=
  match prior with
  | none => some ""
  | some existing => customSection? options (Text.unified existing)

/-- A write puts the text in front of the custom section that it finds. -/
theorem WellMarked.outcome_kept (marked : WellMarked options text) {prior : Option String}
    {custom : String} (found : kept? options prior = some custom) :
    ∃ status left, outcome options prior text = (some status, left) ∧
      Text.unified left = text ++ custom := by
  cases prior with
  | none =>
    obtain rfl : "" = custom := Option.some.inj found
    exact ⟨.created, text, rfl, by rw [Text.unified_of_notMem marked.plain, String.append_empty]⟩
  | some existing =>
    have behind : customSection? options (Text.unified existing) = some custom := found
    by_cases same : text ++ custom = Text.unified existing
    · exact ⟨.unchanged, existing, outcome_unchanged behind same, same.symm⟩
    · refine ⟨.updated, text ++ custom, outcome_updated behind same, ?_⟩
      have plain := return_notMem_of_customSection? behind (Text.return_notMem_unified existing)
      apply Text.unified_of_notMem
      rw [String.toList_append, List.mem_append, not_or]
      exact ⟨marked.plain, plain.2⟩

/-- Behind a well-marked text stands the custom section. -/
theorem WellMarked.kept?_eq (marked : WellMarked options text) {left custom : String}
    (stands : Text.unified left = text ++ custom) : kept? options (some left) = some custom := by
  rw [kept?, stands, customSection?_append marked.toEndsAtMarker]

/-! ## One write -/

/-- Writing over a file whose text is read cannot be stopped. -/
theorem write_of_readText {existing : String} (read : tree.readText target = .ok existing)
    (text : String) : ∃ new, write options tree target text =
      answer new (outcome options (some existing) text).1 := by
  cases marked : customSection? options (Text.unified existing) with
  | none =>
    rw [outcome_handWritten marked]
    exact ⟨tree, write_handWritten read marked⟩
  | some custom =>
    by_cases same : text ++ custom = Text.unified existing
    · rw [outcome_unchanged marked same]
      exact ⟨tree, write_unchanged read marked same⟩
    · obtain ⟨new, done⟩ := FileTree.exists_write_of_readText read (.text (text ++ custom))
      rw [outcome_updated marked same, write_updated read marked same, done]
      exact ⟨new, rfl⟩

/-- Whether a write is stopped by a fault of the file system does not depend on its text. -/
theorem write_calm (calm : ∀ fault, write options tree target text ≠ .error (.file fault))
    (other : String) : ∀ fault, write options tree target other ≠ .error (.file fault) := by
  intro fault failed
  rcases write_cases options tree target text with
    ⟨fault', stopped⟩ | ⟨missing, _, made, _⟩ | ⟨existing, read, _⟩
  · exact calm fault' stopped
  · obtain ⟨middle, above, put⟩ := Result.bind_eq_ok_iff.mp made
    obtain ⟨written, put'⟩ := FileTree.exists_write_iff.mpr (FileTree.exists_write_iff.mp ⟨_, put⟩)
    have made' : create tree target other = .ok written :=
      Result.bind_eq_ok_iff.mpr ⟨middle, above, put'⟩
    rw [write_missing missing, made'] at failed
    cases failed
  · obtain ⟨new, answered⟩ : ∃ new, write options tree target other =
        answer new (outcome options (some existing) other).1 := write_of_readText read other
    rw [answered] at failed
    cases verdict : (outcome options (some existing) other).1 <;> rw [verdict] at failed <;>
      cases failed

/-- A write leaves the text in front of the custom section that it has found, which the next
write finds again. -/
theorem WellMarked.write_kept (marked : WellMarked options text)
    (calm : ∀ fault, write options tree target text ≠ .error (.file fault)) {custom : String}
    (found : kept? options (tree.readText target).toOption = some custom) :
    ∃ status new, write options tree target text = .ok (status, new) ∧
      new.readBack target = .ok (text ++ custom) ∧
      kept? options (new.readText target).toOption = some custom := by
  obtain ⟨status, left, result, stands⟩ := marked.outcome_kept found
  rcases write_spec options tree target text with ⟨fault, stopped⟩ | ⟨new, answered, leaves⟩
  · exact absurd stopped (calm fault)
  rw [result] at answered leaves
  refine ⟨status, new, answered, FileTree.readBack_eq_ok_iff.mpr ⟨left, leaves.read, stands⟩, ?_⟩
  rw [leaves.read]
  exact marked.kept?_eq stands

/-- A text that is read back in front of a custom section is not written again. -/
theorem WellMarked.write_again (marked : WellMarked options text) {custom : String}
    (stands : tree.readBack target = .ok (text ++ custom)) :
    write options tree target text = .ok (.unchanged, tree) := by
  obtain ⟨left, read, unified⟩ := FileTree.readBack_eq_ok_iff.mp stands
  have behind : customSection? options (Text.unified left) = some custom :=
    marked.kept?_eq unified
  exact write_unchanged read behind unified.symm

/-! ## Several writes -/

/-- Texts are written to a file one after another: what each write answers, and the tree behind
the last one. A write that fails leaves the tree as it is. -/
def writeEach (options : Options) (target : Location) (tree : FileTree) :
    List String → List (Except WriteFault WriteStatus) × FileTree
  | [] => ([], tree)
  | text :: rest =>
    match write options tree target text with
    | .ok (status, written) =>
      let (others, last) := writeEach options target written rest
      (.ok status :: others, last)
    | .error fault =>
      let (others, last) := writeEach options target tree rest
      (.error fault :: others, last)

theorem writeEach_cons_ok {status : WriteStatus} {written : FileTree}
    (done : write options tree target text = .ok (status, written)) (rest : List String) :
    writeEach options target tree (text :: rest) =
      (.ok status :: (writeEach options target written rest).1,
        (writeEach options target written rest).2) := by
  rw [writeEach, done]

theorem writeEach_cons_error {fault : WriteFault}
    (failed : write options tree target text = .error fault) (rest : List String) :
    writeEach options target tree (text :: rest) =
      (.error fault :: (writeEach options target tree rest).1,
        (writeEach options target tree rest).2) := by
  rw [writeEach, failed]

/-- A hand-written file is refused every time. -/
theorem writeEach_handWritten {existing : String} (read : tree.readText target = .ok existing)
    (unmarked : customSection? options (Text.unified existing) = none) (texts : List String) :
    writeEach options target tree texts = (texts.map fun _ => .error .handWritten, tree) := by
  induction texts with
  | nil => rfl
  | cons text rest ih =>
    rw [writeEach_cons_error (write_handWritten read unmarked), ih, List.map_cons]

/-- The first of several writes is stopped by no fault of the file system if none of them is. -/
theorem calm_head {rest : List String}
    (calm : ∀ fault, .error (.file fault) ∉ (writeEach options target tree (text :: rest)).1) :
    ∀ fault, write options tree target text ≠ .error (.file fault) := by
  intro fault stopped
  refine calm fault ?_
  rw [writeEach_cons_error stopped]
  exact List.mem_cons_self

/-- Every write finds the custom section that the first one has found, so that it stands behind
the last text in the end. -/
theorem readBack_writeEach {texts : List String} {last custom : String}
    (marked : ∀ text ∈ texts ++ [last], WellMarked options text)
    (calm : ∀ fault, .error (.file fault) ∉ (writeEach options target tree (texts ++ [last])).1)
    (found : kept? options (tree.readText target).toOption = some custom) :
    (∀ answer ∈ (writeEach options target tree (texts ++ [last])).1,
        ∃ status, answer = .ok status) ∧
      (writeEach options target tree (texts ++ [last])).2.readBack target =
        .ok (last ++ custom) := by
  induction texts generalizing tree with
  | nil =>
    rw [List.nil_append] at marked calm ⊢
    obtain ⟨status, new, done, stands, _⟩ :=
      (marked last (List.mem_singleton_self last)).write_kept (calm_head calm) found
    rw [writeEach_cons_ok done]
    exact ⟨fun answer member => ⟨status, List.mem_singleton.mp member⟩, stands⟩
  | cons text texts ih =>
    rw [List.cons_append] at marked calm ⊢
    rw [List.forall_mem_cons] at marked
    obtain ⟨status, new, done, _, found'⟩ := marked.1.write_kept (calm_head calm) found
    rw [writeEach_cons_ok done] at calm ⊢
    obtain ⟨answered, stands⟩ :=
      ih marked.2 (fun fault member => calm fault (List.mem_cons_of_mem _ member)) found'
    exact ⟨List.forall_mem_cons.mpr ⟨⟨status, rfl⟩, answered⟩, stands⟩

/-- Of several well-marked texts that are written to a file one after another, only the last one
counts. A hand-written file is refused every time and stays as it is. Otherwise every write
succeeds, and what is read back in the end is what writing the last text alone leaves: that text
and behind it the custom section that was read at first, which is empty if there was no file.
Writing the last text once more changes nothing. -/
theorem writeEach_absorbs {texts : List String} {last : String}
    (marked : ∀ text ∈ texts ++ [last], WellMarked options text)
    (calm : ∀ fault, .error (.file fault) ∉ (writeEach options target tree (texts ++ [last])).1) :
    let answers := (writeEach options target tree (texts ++ [last])).1
    let after := (writeEach options target tree (texts ++ [last])).2
    (∃ existing, tree.readBack target = .ok existing ∧ customSection? options existing = none ∧
        answers = (texts ++ [last]).map (fun _ => .error .handWritten) ∧ after = tree) ∨
      ∃ custom, ((tree.find target = .ok none ∧ custom = "") ∨
          ∃ existing, tree.readBack target = .ok existing ∧
            customSection? options existing = some custom) ∧
        (∀ answer ∈ answers, ∃ status, answer = .ok status) ∧
        after.readBack target = .ok (last ++ custom) ∧
        (∃ status alone, write options tree target last = .ok (status, alone) ∧
          alone.readBack target = .ok (last ++ custom)) ∧
        write options after target last = .ok (.unchanged, after) := by
  intro answers after
  have marked' : WellMarked options last := marked last (by simp)
  obtain ⟨first, rest, split⟩ : ∃ first rest, texts ++ [last] = first :: rest := by
    cases texts with
    | nil => exact ⟨last, [], rfl⟩
    | cons first others => exact ⟨first, others ++ [last], rfl⟩
  have calm' : ∀ fault, write options tree target first ≠ .error (.file fault) := by
    rw [split] at calm
    exact calm_head calm
  -- What the first custom section is decides all; it goes through every write.
  have absorbed : ∀ custom, kept? options (tree.readText target).toOption = some custom →
      (∀ answer ∈ answers, ∃ status, answer = .ok status) ∧
        after.readBack target = .ok (last ++ custom) ∧
        (∃ status alone, write options tree target last = .ok (status, alone) ∧
          alone.readBack target = .ok (last ++ custom)) ∧
        write options after target last = .ok (.unchanged, after) := by
    intro custom found
    obtain ⟨answered, stands⟩ := readBack_writeEach marked calm found
    obtain ⟨status, alone, done, stands', _⟩ :=
      marked'.write_kept (write_calm calm' last) found
    exact ⟨answered, stands, ⟨status, alone, done, stands'⟩, marked'.write_again stands⟩
  rcases write_cases options tree target first with
    ⟨fault, stopped⟩ | ⟨missing, _, _, _⟩ | ⟨existing, read, _⟩
  · exact absurd stopped (calm' fault)
  · refine .inr ⟨"", .inl ⟨missing, rfl⟩, absorbed "" ?_⟩
    rw [readText_of_find_none missing]
    rfl
  · have back : tree.readBack target = .ok (Text.unified existing) :=
      FileTree.readBack_eq_ok_iff.mpr ⟨existing, read, rfl⟩
    cases behind : customSection? options (Text.unified existing) with
    | none =>
      have refused := writeEach_handWritten read behind (texts ++ [last])
      exact .inl ⟨Text.unified existing, back, behind, congrArg Prod.fst refused,
        congrArg Prod.snd refused⟩
    | some custom =>
      refine .inr ⟨custom, .inr ⟨Text.unified existing, back, behind⟩, absorbed custom ?_⟩
      rw [read]
      exact behind

/-- A custom section that holds a marker line itself goes through two writes. -/
theorem writeEach_absorbs_twice :
    let options : Options := { customMarker := "end" }
    let target : Location := .inside ["A.ts"]
    let tree : FileTree := ⟨[(target, .file (.text "// end\r\na\r\n// end\nb\n"))]⟩
    let first := "x\n// end\n"
    let last := "y\n// end\n"
    let after := (writeEach options target tree ([first] ++ [last])).2
    (∀ text ∈ [first] ++ [last], WellMarked options text) ∧
      (∀ fault, .error (.file fault) ∉ (writeEach options target tree ([first] ++ [last])).1) ∧
      after.readBack target = .ok (last ++ "a\n// end\nb\n") ∧
      write options after target last = .ok (.unchanged, after) := by
  intro options target tree first last after
  have marked : ∀ text ∈ [first] ++ [last], WellMarked options text := by
    intro text member
    rcases List.mem_append.mp member with member | member <;>
      rw [List.mem_singleton.mp member]
    · exact ⟨⟨⟨['x', '\n'], [], ['\n'], by decide +kernel, .inr rfl, by simp [Blanks], .feed⟩,
        by decide +kernel⟩, by decide +kernel⟩
    · exact ⟨⟨⟨['y', '\n'], [], ['\n'], by decide +kernel, .inr rfl, by simp [Blanks], .feed⟩,
        by decide +kernel⟩, by decide +kernel⟩
  have answers : (writeEach options target tree ([first] ++ [last])).1 =
      [.ok .updated, .ok .updated] := by decide +kernel
  have calm : ∀ fault,
      .error (.file fault) ∉ (writeEach options target tree ([first] ++ [last])).1 := by
    intro fault
    rw [answers]
    simp
  have read : tree.readBack target = .ok "// end\na\n// end\nb\n" := by decide +kernel
  have behind : customSection? options "// end\na\n// end\nb\n" = some "a\n// end\nb\n" := by
    decide +kernel
  refine ⟨marked, calm, ?_⟩
  rcases writeEach_absorbs marked calm with
    ⟨existing, found, unmarked, _⟩ | ⟨custom, found, _, stands, _, again⟩
  · obtain rfl := Except.ok.inj (read.symm.trans found)
    cases behind.symm.trans unmarked
  · rcases found with ⟨missing, _⟩ | ⟨existing, found, marked'⟩
    · cases missing
    · obtain rfl := Except.ok.inj (read.symm.trans found)
      obtain rfl := Option.some.inj (behind.symm.trans marked')
      exact ⟨stands, again⟩

end Emission

end TypeContracts
