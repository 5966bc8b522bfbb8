import TypeContracts.Emission.Merge
import TypeContracts.Proofs.Emission.CustomSection
import TypeContracts.Proofs.Files.Tree
import TypeContracts.Proofs.Text.LineEnds

/-!
# What a write makes of a file

The outcome of a write depends only on the text of its file and on the text that is written
(`outcome`). The write gives this outcome, or a fault of the file system, and touches no
other file (`write_spec`). When the text ends with its first marker line, writing it again
changes nothing (`outcome_again`).

Such a text becomes the generated part of the file, and the custom section of the file as it
was read stays behind it. Reading unifies line ends, so the custom section stays byte for
byte exactly when it holds no carriage return and its marker line is the first one also
where a lone carriage return ends a line (`write_updated_custom_section`).
-/

set_option autoImplicit false

namespace TypeContracts.Emission

/-! ## The outcome of a write -/

/-- What a write makes of a file with the given text, or of a missing file: the status,
which a hand-written file has not, and the text of the file afterwards. -/
def outcome (options : Options) (prior : Option String) (text : String) :
    Option WriteStatus × String :=
  match prior with
  | none => (some .created, text)
  | some existing =>
    match customSection? options (Text.unified existing) with
    | none => (none, existing)
    | some custom =>
      if text ++ custom = Text.unified existing then (some .unchanged, existing)
      else (some .updated, text ++ custom)

section

variable {options : Options} {existing text custom : String}

/-- A file without a marker line is hand-written, and stays as it is. -/
theorem outcome_handWritten (unmarked : customSection? options (Text.unified existing) = none) :
    outcome options (some existing) text = (none, existing) := by
  simp [outcome, unmarked]

/-- A file that reads as the text and its custom section stays as it is. -/
theorem outcome_unchanged
    (marked : customSection? options (Text.unified existing) = some custom)
    (same : text ++ custom = Text.unified existing) :
    outcome options (some existing) text = (some .unchanged, existing) := by
  simp [outcome, marked, same]

/-- Any other file becomes the text and its custom section. -/
theorem outcome_updated
    (marked : customSection? options (Text.unified existing) = some custom)
    (differs : text ++ custom ≠ Text.unified existing) :
    outcome options (some existing) text = (some .updated, text ++ custom) := by
  simp [outcome, marked, differs]

end

/-- A location whose text is read holds a file. -/
theorem find_of_readText {tree : FileTree} {target : Location} {text : String}
    (read : tree.readText target = .ok text) :
    tree.find target = .ok (some (.file (.text text))) := by
  rw [FileTree.readText_eq_ok_iff_read, FileTree.read_eq_ok_iff] at read
  rw [FileTree.find, read]

/-- A location where nothing is found has no text. -/
theorem readText_of_find_none {tree : FileTree} {target : Location}
    (missing : tree.find target = .ok none) : (tree.readText target).toOption = none := by
  cases read : tree.readText target with
  | error fault => rfl
  | ok text =>
    rw [find_of_readText read] at missing
    cases missing

section

variable {options : Options} {tree : FileTree} {target : Location} {existing text custom : String}

/-- Where nothing is found, a write creates the file. -/
theorem write_missing (missing : tree.find target = .ok none) :
    write options tree target text =
      ((create tree target text).mapError .file).map fun written => (.created, written) := by
  rw [write, missing]
  cases create tree target text <;> rfl

/-- A write refuses a hand-written file. -/
theorem write_handWritten (read : tree.readText target = .ok existing)
    (unmarked : customSection? options (Text.unified existing) = none) :
    write options tree target text = .error .handWritten := by
  have nothing : merge options (Text.unified existing) text = none := by simp [merge, unmarked]
  rw [write, find_of_readText read, read]
  simp only [Except.mapError, bind, Except.bind, nothing]
  rfl

/-- A write leaves a file alone that reads as it would be written. -/
theorem write_unchanged (read : tree.readText target = .ok existing)
    (marked : customSection? options (Text.unified existing) = some custom)
    (same : text ++ custom = Text.unified existing) :
    write options tree target text = .ok (.unchanged, tree) := by
  have merged : merge options (Text.unified existing) text = some (.unchanged, text ++ custom) := by
    simp [merge, marked, same]
  rw [write, find_of_readText read, read]
  simp only [Except.mapError, bind, Except.bind, merged]
  rfl

/-- A write puts the text in front of the custom section of any other file. -/
theorem write_updated (read : tree.readText target = .ok existing)
    (marked : customSection? options (Text.unified existing) = some custom)
    (differs : text ++ custom ≠ Text.unified existing) :
    write options tree target text =
      ((tree.write target (.text (text ++ custom))).mapError .file).map
        fun written => (.updated, written) := by
  have merged : merge options (Text.unified existing) text = some (.updated, text ++ custom) := by
    simp [merge, marked, differs]
  rw [write, find_of_readText read, read]
  simp only [Except.mapError, bind, Except.bind, merged]
  cases tree.write target (.text (text ++ custom)) <;> rfl

end

/-- A write creates a file where none is found, and otherwise acts on the text that it
reads. -/
theorem write_cases (options : Options) (tree : FileTree) (target : Location) (text : String) :
    (∃ fault, write options tree target text = .error (.file fault)) ∨
    (tree.find target = .ok none ∧ ∃ written, create tree target text = .ok written ∧
      write options tree target text = .ok (.created, written)) ∨
    (∃ existing, tree.readText target = .ok existing ∧
      ((customSection? options (Text.unified existing) = none ∧
          write options tree target text = .error .handWritten) ∨
        ∃ custom, customSection? options (Text.unified existing) = some custom ∧
          ((text ++ custom = Text.unified existing ∧
              write options tree target text = .ok (.unchanged, tree)) ∨
            (text ++ custom ≠ Text.unified existing ∧
              ∃ written, tree.write target (.text (text ++ custom)) = .ok written ∧
                write options tree target text = .ok (.updated, written))))) := by
  cases found : tree.find target with
  | error fault => exact .inl ⟨fault, by rw [write, found]; rfl⟩
  | ok entry =>
    cases entry with
    | none =>
      rw [write_missing found]
      cases made : create tree target text with
      | error fault => exact .inl ⟨fault, rfl⟩
      | ok written => exact .inr (.inl ⟨rfl, written, rfl, rfl⟩)
    | some entry =>
      cases read : tree.readText target with
      | error fault => exact .inl ⟨fault, by rw [write, found, read]; rfl⟩
      | ok existing =>
        cases marked : customSection? options (Text.unified existing) with
        | none => exact .inr (.inr ⟨existing, rfl, .inl ⟨marked, write_handWritten read marked⟩⟩)
        | some custom =>
          by_cases same : text ++ custom = Text.unified existing
          · exact .inr (.inr ⟨existing, rfl,
              .inr ⟨custom, marked, .inl ⟨same, write_unchanged read marked same⟩⟩⟩)
          · rw [write_updated read marked same]
            cases done : tree.write target (.text (text ++ custom)) with
            | error fault => exact .inl ⟨fault, rfl⟩
            | ok written =>
              exact .inr (.inr ⟨existing, rfl,
                .inr ⟨custom, marked, .inr ⟨same, written, done, rfl⟩⟩⟩)

/-- What a write with a verdict answers. -/
def answer (tree : FileTree) : Option WriteStatus → Except WriteFault (WriteStatus × FileTree)
  | none => .error .handWritten
  | some status => .ok (status, tree)

/-- A verdict with which a file is written. -/
def IsWritten (verdict : Option WriteStatus) : Prop :=
  verdict = some .created ∨ verdict = some .updated

/-- The file has the given text afterwards. Beside new directories, nothing but the file has
changed, and that only under a verdict that says so. -/
structure Leaves (target : Location) (verdict : Option WriteStatus) (text : String)
    (old new : FileTree) : Prop where
  read : new.readText target = .ok text
  changed : new = old ∨ IsWritten verdict ∧
    ∃ place, new.resolve target = .ok place ∧ FileTree.ChangedAt [place] old new

/-- A write changes at most the place of its file. -/
theorem Leaves.changedAt {target : Location} {verdict : Option WriteStatus} {text : String}
    {old new : FileTree} (leaves : Leaves target verdict text old new) :
    ∃ places, FileTree.ChangedAt places old new ∧
      ∀ place ∈ places, IsWritten verdict ∧ new.resolve target = .ok place := by
  rcases leaves.changed with rfl | ⟨written, place, resolved, changed⟩
  · exact ⟨[], .refl _, by simp⟩
  · exact ⟨[place], changed, by simpa using ⟨written, resolved⟩⟩

/-- A file that is left as it is. -/
theorem leaves_self {tree : FileTree} {target : Location} {text : String}
    (read : tree.readText target = .ok text) (verdict : Option WriteStatus) :
    Leaves target verdict text tree tree :=
  ⟨read, .inl rfl⟩

/-- A file that is written. -/
theorem leaves_write {old middle new : FileTree} {target : Location}
    {verdict : Option WriteStatus} {text : String} (before : FileTree.ChangedAt [] old middle)
    (done : middle.write target (.text text) = .ok new) (written : IsWritten verdict) :
    Leaves target verdict text old new := by
  obtain ⟨place, resolved, _, changed⟩ := FileTree.changedAt_write done
  exact ⟨FileTree.readText_write done,
    .inr ⟨written, place, changed.directories.resolve resolved, before.trans changed⟩⟩

/-- A new file stands in directories that may be new. -/
theorem leaves_create {tree new : FileTree} {target : Location} {text : String}
    (done : create tree target text = .ok new) : Leaves target (some .created) text tree new := by
  obtain ⟨middle, above, put⟩ := Result.bind_eq_ok_iff.mp done
  exact leaves_write (FileTree.changedAt_ensureAbove above) put (.inl rfl)

/-- A write answers and leaves the file as its outcome says, or it is stopped by a fault of
the file system. -/
theorem write_spec (options : Options) (tree : FileTree) (target : Location) (text : String) :
    (∃ fault, write options tree target text = .error (.file fault)) ∨
    ∃ new, write options tree target text =
        answer new (outcome options (tree.readText target).toOption text).1 ∧
      Leaves target (outcome options (tree.readText target).toOption text).1
        (outcome options (tree.readText target).toOption text).2 tree new := by
  rcases write_cases options tree target text with
    failed | ⟨missing, new, made, created⟩ | ⟨existing, read, cases⟩
  · exact .inl failed
  · rw [readText_of_find_none missing]
    exact .inr ⟨new, created, leaves_create made⟩
  simp only [read, Except.toOption]
  rcases cases with
    ⟨marked, conflict⟩ | ⟨custom, marked, ⟨same, settled⟩ | ⟨differs, new, put, updated⟩⟩
  · rw [outcome_handWritten marked]
    exact .inr ⟨tree, conflict, leaves_self read none⟩
  · rw [outcome_unchanged marked same]
    exact .inr ⟨tree, settled, leaves_self read _⟩
  · rw [outcome_updated marked differs]
    exact .inr ⟨new, updated, leaves_write (.refl tree) put (.inr rfl)⟩

/-! ## Writing again -/

variable {options : Options}

/-- A file whose outcome does not ask for a write is left alone, and no fault of the file
system can come between. -/
theorem write_settled {tree : FileTree} {target : Location} {existing text : String}
    (read : tree.readText target = .ok existing)
    (idle : ¬ IsWritten (outcome options (some existing) text).1) :
    write options tree target text = answer tree (outcome options (some existing) text).1 := by
  cases marked : customSection? options (Text.unified existing) with
  | none =>
    rw [outcome_handWritten marked]
    exact write_handWritten read marked
  | some custom =>
    by_cases same : text ++ custom = Text.unified existing
    · rw [outcome_unchanged marked same]
      exact write_unchanged read marked same
    · rw [outcome_updated marked same] at idle
      exact absurd (.inr rfl) idle

/-- A text without a carriage return has none in its marker line, and none behind it. -/
theorem return_notMem_of_customSection? {text custom : String}
    (found : customSection? options text = some custom) (plain : '\r' ∉ text.toList) :
    '\r' ∉ (markerLine options).toList ∧ '\r' ∉ custom.toList := by
  obtain ⟨front, blanks, _, _, ⟨rfl, whole⟩ | ⟨lineEnd, _, whole⟩⟩ := customSection?_sound found
  · rw [whole] at plain
    simp only [List.mem_append, not_or] at plain
    exact ⟨plain.2.1, by simp⟩
  · rw [whole] at plain
    simp only [List.mem_append, not_or] at plain
    exact ⟨plain.2.1, plain.2.2.2.2⟩

/-- A text in front of a custom section that has been read is settled. -/
theorem outcome_settled {text custom : String} (plain : '\r' ∉ text.toList)
    (plain' : '\r' ∉ custom.toList) (ends : EndsAtMarker options text) :
    outcome options (some (text ++ custom)) text = (some .unchanged, text ++ custom) := by
  have unified : Text.unified (text ++ custom) = text ++ custom := by
    apply Text.unified_of_notMem
    rw [String.toList_append, List.mem_append, not_or]
    exact ⟨plain, plain'⟩
  have marked : customSection? options (Text.unified (text ++ custom)) = some custom := by
    rw [unified, customSection?_append ends]
  exact outcome_unchanged marked unified.symm

/-- Writing a text again leaves the file as the first write has left it, and hand-written
if it was. -/
theorem outcome_again {text : String} (plain : '\r' ∉ text.toList)
    (ends : EndsAtMarker options text) (prior : Option String) :
    outcome options (some (outcome options prior text).2) text =
      ((outcome options prior text).1.map fun _ => .unchanged,
        (outcome options prior text).2) := by
  cases prior with
  | none =>
    have whole := outcome_settled plain (by simp : '\r' ∉ "".toList) ends
    rwa [String.append_empty] at whole
  | some existing =>
    cases marked : customSection? options (Text.unified existing) with
    | none =>
      rw [outcome_handWritten marked]
      exact outcome_handWritten marked
    | some custom =>
      by_cases same : text ++ custom = Text.unified existing
      · rw [outcome_unchanged marked same]
        exact outcome_unchanged marked same
      · rw [outcome_updated marked same]
        have plain' := return_notMem_of_customSection? marked (Text.return_notMem_unified existing)
        exact outcome_settled plain plain'.2 ends

/-! ## What an update keeps -/

/-- A generated part still closes with its marker line when its line ends are unified. -/
theorem endsAtMarker_unified {generated : String} {front blanks lineEnd : List Char}
    (whole : generated.toList = front ++ ((markerLine options).toList ++ (blanks ++ lineEnd)))
    (start : StartsLine front) (blank : Blanks blanks) (close : LineEnd lineEnd)
    (first : customSection? options (Text.unified generated) = some "") :
    EndsAtMarker options (Text.unified generated) := by
  have plain := (return_notMem_of_customSection? first (Text.return_notMem_unified generated)).1
  have plain' : '\r' ∉ blanks := fun member => absurd (blank '\r' member) (by decide)
  have settled : front.getLast? ≠ some '\r' := by
    rcases start with rfl | last
    · simp
    · rw [last]
      decide
  have settled' : ((markerLine options).toList ++ blanks).getLast? ≠ some '\r' := fun last =>
    (List.mem_append.mp (List.mem_of_getLast? last)).elim plain plain'
  have feed : Text.unifyLineEnds lineEnd = ['\n'] := by cases close <;> rfl
  have same : Text.unifyLineEnds ((markerLine options).toList ++ blanks) =
      (markerLine options).toList ++ blanks :=
    Text.unifyLineEnds_of_notMem (by simp [plain, plain'])
  refine ⟨⟨Text.unifyLineEnds front, blanks, ['\n'], ?_, ?_, blank, .feed⟩, first⟩
  · rw [Text.unified, String.toList_ofList, whole, Text.unifyLineEnds_append settled,
      ← List.append_assoc, Text.unifyLineEnds_append settled', feed,
      same, List.append_assoc]
  · rcases start with rfl | last
    · exact .inl rfl
    · exact .inr (Text.getLast?_unifyLineEnds last)

/-- The custom section of a text stays when line ends are unified exactly when it holds no
carriage return and its marker line stays the first one. -/
theorem customSection?_unified_iff {generated custom kept : String}
    (marked : customSection? options (generated ++ custom) = some custom)
    (found : customSection? options (Text.unified (generated ++ custom)) = some kept) :
    kept = custom ↔
      '\r' ∉ custom.toList ∧ customSection? options (Text.unified generated) = some "" := by
  obtain ⟨front, blanks, start, blank, ⟨rfl, _⟩ | ⟨lineEnd, close, whole⟩⟩ :=
    customSection?_sound marked
  · rw [String.append_empty] at found
    rw [found, Option.some_inj]
    exact ⟨fun same => ⟨by simp, same⟩, And.right⟩
  have spelled : generated.toList =
      front ++ ((markerLine options).toList ++ (blanks ++ lineEnd)) := by
    have behind : generated.toList ++ custom.toList =
        front ++ ((markerLine options).toList ++ (blanks ++ lineEnd)) ++ custom.toList := by
      rw [← String.toList_append, whole]
      simp only [List.append_assoc]
    exact List.append_cancel_right behind
  have closed : generated.toList.getLast? = some '\n' := by
    have proper : lineEnd ≠ [] := by cases close <;> simp
    rw [spelled, ← List.append_assoc, ← List.append_assoc, List.getLast?_append_of_ne_nil _ proper,
      close.getLast?]
  have pieces : Text.unified (generated ++ custom) =
      Text.unified generated ++ Text.unified custom := by
    rw [Text.unified, String.toList_append, Text.unifyLineEnds_append (by rw [closed]; decide),
      String.ofList_append]
    rfl
  constructor
  · rintro rfl
    have plain := (return_notMem_of_customSection? found (Text.return_notMem_unified _)).2
    refine ⟨plain, ?_⟩
    obtain ⟨slashed, slash⟩ := exists_toList_markerLine options
    rw [pieces, Text.unified_of_notMem plain, customSection?_eq_some_iff,
      String.toList_append] at found
    refine customSection?_eq_some_iff.mpr (splitAtMarker?_of_append slash ?_ found)
    rw [Text.unified, String.toList_ofList]
    exact Text.getLast?_unifyLineEnds closed
  · rintro ⟨plain, first⟩
    have ends := endsAtMarker_unified spelled start blank close first
    rw [pieces, Text.unified_of_notMem plain, customSection?_append ends] at found
    exact (Option.some.inj found).symm

/-- An update puts the text in front of the custom section of the file as it was read, and
the first marker line of the file is then the one that ends the text. The bytes of the
custom section stay exactly when unifying line ends leaves them and their marker line
alone. -/
theorem write_updated_custom_section {tree written : FileTree} {target : Location}
    {generated custom text : String}
    (stands : tree.readText target = .ok (generated ++ custom))
    (marked : customSection? options (generated ++ custom) = some custom)
    (ends : EndsAtMarker options text)
    (done : write options tree target text = .ok (.updated, written)) :
    ∃ kept, (written.read target).map Content.bytes =
        .ok ((Content.text text).bytes ++ (Content.text kept).bytes) ∧
      customSection? options (text ++ kept) = some kept ∧
      customSection? options (Text.unified (generated ++ custom)) = some kept ∧
      ((Content.text kept).bytes = (Content.text custom).bytes ↔
        '\r' ∉ custom.toList ∧ customSection? options (Text.unified generated) = some "") := by
  rcases write_cases options tree target text with
    ⟨fault, failed⟩ | ⟨_, made, _, created⟩ | ⟨existing, read, cases⟩
  · cases failed.symm.trans done
  · cases created.symm.trans done
  obtain rfl : existing = generated ++ custom := Except.ok.inj (read.symm.trans stands)
  rcases cases with ⟨_, failed⟩ | ⟨kept, found, ⟨_, same⟩ | ⟨_, made, put, updated⟩⟩
  · cases failed.symm.trans done
  · cases same.symm.trans done
  cases updated.symm.trans done
  refine ⟨kept, ?_, customSection?_append ends kept, found, ?_⟩
  · rw [FileTree.readText_eq_ok_iff_read.mp (FileTree.readText_write put), Except.map,
      Content.bytes_text_append]
  · rw [Content.bytes_text_inj]
    exact customSection?_unified_iff marked found

/-- A file whose marker line ends in a carriage return and a line feed keeps its custom
section. -/
theorem write_updated_custom_section_returnFeed :
    let tree : FileTree := ⟨[(.inside ["A.ts"],
      .file (.text ("// contractgen's generated content\r\n" ++ "export const a = 1;\n")))]⟩
    let text := "x\n// contractgen's generated content\n"
    ∃ written kept, write {} tree (.inside ["A.ts"]) text = .ok (.updated, written) ∧
      (written.read (.inside ["A.ts"])).map Content.bytes =
        .ok ((Content.text text).bytes ++ (Content.text kept).bytes) ∧
      (Content.text kept).bytes = (Content.text "export const a = 1;\n").bytes := by
  intro tree text
  have marked : customSection? {}
      ("// contractgen's generated content\r\n" ++ "export const a = 1;\n") =
        some "export const a = 1;\n" := by decide +kernel
  have ends : EndsAtMarker {} text :=
    ⟨⟨['x', '\n'], [], ['\n'], by decide +kernel, .inr rfl, by simp [Blanks], .feed⟩,
      by decide +kernel⟩
  have stands : tree.readText (.inside ["A.ts"]) =
      .ok ("// contractgen's generated content\r\n" ++ "export const a = 1;\n") := rfl
  obtain ⟨kept, bytes, _, _, same⟩ := write_updated_custom_section stands marked ends rfl
  exact ⟨_, kept, rfl, bytes, same.mpr ⟨by decide +kernel, by decide +kernel⟩⟩

/-- A custom section with carriage returns does not stay byte for byte. -/
theorem write_updated_loses_returns :
    let tree : FileTree := ⟨[(.inside ["A.ts"],
      .file (.text ("// contractgen's generated content\r\n" ++ "export const a = 1;\r\n")))]⟩
    let text := "x\n// contractgen's generated content\n"
    EndsAtMarker {} text ∧
      customSection? {} ("// contractgen's generated content\r\n" ++ "export const a = 1;\r\n") =
        some "export const a = 1;\r\n" ∧
      ∃ written, write {} tree (.inside ["A.ts"]) text = .ok (.updated, written) ∧
        (written.read (.inside ["A.ts"])).map Content.bytes ≠
          .ok ((Content.text text).bytes ++ (Content.text "export const a = 1;\r\n").bytes) := by
  intro tree text
  have ends : EndsAtMarker {} text :=
    ⟨⟨['x', '\n'], [], ['\n'], by decide +kernel, .inr rfl, by simp [Blanks], .feed⟩,
      by decide +kernel⟩
  exact ⟨ends, by decide +kernel, _, rfl, by decide +kernel⟩

end TypeContracts.Emission
