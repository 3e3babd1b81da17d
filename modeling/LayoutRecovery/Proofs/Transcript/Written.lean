import LayoutRecovery.Proofs.Transcript.Legible

/-!
# The lines of a class

The text of a class is written line by line: a header, the pieces of the body and a closing.  A copy
of an input line opens in a way that no other line of a class does, as long as nothing that is
quoted in the other lines holds a line feed.
-/

namespace LayoutRecovery

open Text (Unbroken Silent)

/-- How the copy of an input line starts in a class. -/
def SourceLine.originMark : List Char :=
  "\t\t// line: ".toList

open SourceLine (originMark)

theorem SourceLine.originMark_eq :
    originMark = ['\t', '\t', '/', '/', ' ', 'l', 'i', 'n', 'e', ':', ' '] :=
  String.toList_ofList

theorem SourceLine.originMark_eq_append : originMark = "\t\t// ".toList ++ "line: ".toList := by
  have indent : "\t\t// ".toList = ['\t', '\t', '/', '/', ' '] := String.toList_ofList
  have word : "line: ".toList = ['l', 'i', 'n', 'e', ':', ' '] := String.toList_ofList
  rw [originMark_eq, indent, word]
  rfl

/-! ## The lines of a class -/

/-- The lines of a member. -/
def Member.lines (member : Member) : List String :=
  member.notes.map (fun note => "\t\t// " ++ note) ++
    ["\t\t[NMS(Size = " ++ member.size.hex ++ ", Ignore = "
      ++ (if member.ignored then "true" else "false") ++ ")]",
    "\t\tpublic " ++ member.type.keyword ++ " " ++ member.name ++ ";\t\t// offset: "
      ++ member.offset.text ++ ", sz: " ++ member.sizeLabel.getD member.size.text
      ++ member.detail.elim "" (fun detail => ", " ++ detail)]

theorem Member.render_eq (member : Member) : member.render = Text.ofLines member.lines := by
  have notes : String.join (member.notes.map commentLine) =
      Text.ofLines (member.notes.map fun note => "\t\t// " ++ note) := by
    rw [Text.ofLines, List.map_map]
    rfl
  have attribute_end : ")]\n" = ")]" ++ "\n" := by simp
  rw [lines, Text.ofLines_append, ← notes]
  unfold render sizeLine declarationLine
  simp only [attribute_end]
  cases member.detail <;> simp [String.append_assoc]

namespace Item

/-- The lines of a piece. -/
def lines : Item → List String
  | blank => [""]
  | remark comment => ["\t\t// " ++ comment.text]
  | member declared => declared.lines

theorem render_eq (item : Item) : item.render = Text.ofLines item.lines := by
  cases item with
  | blank => rfl
  | remark comment => simp [render, lines, Member.commentLine]
  | member declared => exact declared.render_eq

theorem renderAll_eq (items : List Item) :
    renderAll items = Text.ofLines (items.flatMap lines) := by
  induction items with
  | nil => rfl
  | cons item rest ih =>
      rw [List.flatMap_cons, Text.ofLines_append, ← ih, ← render_eq, renderAll, List.map_cons,
        String.join_cons]
      rfl

end Item

/-- The lines of a header. -/
def Header.lines (header : Header) : List String :=
  ["// generated output for subroutine:",
    "// " ++ header.signature ++ " -----> hash: " ++ Numeral.word32Hex header.signatureHash,
    "// hash of whole input: " ++ Numeral.word32Hex header.inputHash, "",
    "namespace " ++ header.namespaceName, "\x7b",
    "\tpublic class " ++ header.className ++ " : " ++ header.baseClass
      ++ header.declaredSize.elim "" (fun size => "\t\t// total size: " ++ size.hex), "\t\x7b"]

theorem Header.render_eq (header : Header) : header.render = Text.ofLines header.lines := by
  have first : "// generated output for subroutine:\n// " =
      "// generated output for subroutine:" ++ ("\n" ++ "// ") := by simp
  have third : "\n// hash of whole input: " = "\n" ++ "// hash of whole input: " := by simp
  have fourth : "\n\nnamespace " = "\n" ++ ("\n" ++ "namespace ") := by simp
  have fifth : "\n\x7b\n\tpublic class " =
      "\n" ++ ("\x7b" ++ ("\n" ++ "\tpublic class ")) := by simp
  have last : "\n\t\x7b\n" = "\n" ++ ("\t\x7b" ++ "\n") := by simp
  unfold render
  simp only [first, third, fourth, fifth, last, lines, Text.ofLines_cons, Text.ofLines_nil]
  cases header.declaredSize <;>
    simp only [String.append_assoc, String.append_empty, String.empty_append, Option.elim]

/-- The lines of a class. -/
def Stub.lines (stub : Stub) : List String :=
  stub.header.lines ++ stub.body.flatMap Item.lines ++ ["\t\x7d", "\x7d"]

theorem Stub.render_eq (stub : Stub) : stub.render = Text.ofLines stub.lines := by
  have ending : "\t\x7d\n\x7d\n" = Text.ofLines ["\t\x7d", "\x7d"] := by simp
  rw [lines, Text.ofLines_append, Text.ofLines_append, ← Header.render_eq, ← Item.renderAll_eq,
    ← ending]
  rfl

/-! ## Lines that are no copies -/

theorem silent_of_aside {comment : String} (aside : Aside comment) :
    Silent originMark ("\t\t// " ++ comment) where
  unbroken := Text.unbroken_append.mpr ⟨by decide, aside.unbroken⟩
  unmarked := by
    rw [SourceLine.originMark_eq_append, String.toList_append, Text.after?_eq_none_iff,
      List.prefix_append_right_inj, ← Text.after?_eq_none_iff]
    exact aside.other

theorem silent_of_opening {opening : List Char}
    (differs : ¬ ['\t', '\t', '/', '/', ' ', 'l', 'i', 'n', 'e', ':', ' '] <+: opening ∧
      ¬ opening <+: ['\t', '\t', '/', '/', ' ', 'l', 'i', 'n', 'e', ':', ' '])
    {rest : String} (solid : '\n' ∉ opening) (unbroken : Unbroken rest) :
    Silent originMark (String.ofList opening ++ rest) where
  unbroken := Text.unbroken_append.mpr ⟨Text.unbroken_ofList.mpr solid, unbroken⟩
  unmarked := by
    rw [SourceLine.originMark_eq]
    exact Text.unmarked_append differs rest

theorem silent_ofList {text : List Char}
    (differs : ¬ ['\t', '\t', '/', '/', ' ', 'l', 'i', 'n', 'e', ':', ' '] <+: text)
    (solid : '\n' ∉ text) : Silent originMark (String.ofList text) where
  unbroken := Text.unbroken_ofList.mpr solid
  unmarked := by
    rw [SourceLine.originMark_eq]
    exact Text.unmarked_ofList differs

theorem Member.Legible.silent {member : Member} (legible : member.Legible) :
    ∀ line ∈ member.lines, Silent originMark line := by
  have label : Unbroken (member.sizeLabel.getD member.size.text) := by
    cases found : member.sizeLabel with
    | none => exact member.size.unbroken_text
    | some label => exact legible.sizeLabel label found
  have detail : Unbroken (member.detail.elim "" fun detail => ", " ++ detail) := by
    cases found : member.detail with
    | none => decide
    | some detail => exact Text.unbroken_append.mpr ⟨by decide, legible.detail detail found⟩
  have ignored : Unbroken (if member.ignored then "true" else "false") := by
    split <;> decide
  unfold lines
  simp only [String.append_assoc]
  refine List.forall_mem_append.mpr ⟨?_, List.forall_mem_cons.mpr
    ⟨silent_of_opening (by decide) (by decide) ?_, List.forall_mem_singleton.mpr
      (silent_of_opening (by decide) (by decide) ?_)⟩⟩
  · exact List.forall_mem_map.mpr fun note inside => silent_of_aside (legible.notes note inside)
  · simp +decide [ignored]
  · simp +decide [legible.name, legible.type, label, detail]

/-- A header whose parts hold no line feed. -/
structure Header.Legible (header : Header) : Prop where
  signature : Unbroken header.signature
  namespaceName : Unbroken header.namespaceName
  className : Unbroken header.className
  baseClass : Unbroken header.baseClass

theorem Header.Legible.silent {header : Header} (legible : header.Legible) :
    ∀ line ∈ header.lines, Silent originMark line := by
  have size : Unbroken
      (header.declaredSize.elim "" fun size => "\t\t// total size: " ++ size.hex) := by
    cases header.declaredSize with
    | none => decide
    | some size => simp +decide
  unfold lines
  simp only [String.append_assoc]
  refine List.forall_mem_cons.mpr ⟨silent_ofList (by decide) (by decide), ?_⟩
  refine List.forall_mem_cons.mpr ⟨silent_of_opening (by decide) (by decide) ?_, ?_⟩
  · simp +decide [legible.signature, Numeral.unbroken_word32Hex]
  refine List.forall_mem_cons.mpr
    ⟨silent_of_opening (by decide) (by decide) (Numeral.unbroken_word32Hex _), ?_⟩
  refine List.forall_mem_cons.mpr ⟨⟨by decide, by decide⟩, ?_⟩
  refine List.forall_mem_cons.mpr
    ⟨silent_of_opening (by decide) (by decide) legible.namespaceName, ?_⟩
  refine List.forall_mem_cons.mpr ⟨silent_ofList (by decide) (by decide), ?_⟩
  refine List.forall_mem_cons.mpr ⟨silent_of_opening (by decide) (by decide) ?_,
    List.forall_mem_singleton.mpr (silent_ofList (by decide) (by decide))⟩
  simp +decide [legible.className, legible.baseClass, size]

/-- A piece of a class that looks in no line like the copy of an input line. -/
def Item.Silent (item : Item) : Prop :=
  ∀ line ∈ item.lines, Text.Silent originMark line

namespace Item

theorem silent_blank : blank.Silent :=
  List.forall_mem_singleton.mpr ⟨by decide, by decide⟩

theorem silent_remark {comment : Remark} (aside : Aside comment.text) :
    (remark comment).Silent :=
  List.forall_mem_singleton.mpr (silent_of_aside aside)

theorem silent_accumulated (size : Size) : (remark (.accumulated size)).Silent := by
  have aside : Aside ("accumulated size: " ++ size.text ++ " (" ++ size.hex ++ ")") := by
    simp only [String.append_assoc]
    exact ⟨by simp +decide, Text.unmarked_append (by decide) _⟩
  exact silent_remark aside

theorem silent_parsedLines (count : Nat) : (remark (.parsedLines count)).Silent := by
  have aside : Aside ("parsed fields: " ++ toString count) :=
    ⟨by simp +decide, Text.unmarked_append (by decide) _⟩
  exact silent_remark aside

theorem silent_loop {line : String} (unbroken : Unbroken line) :
    (remark (.loop line)).Silent := by
  have aside : Aside ("comment: 'do/while' loop start/end detected, origin: " ++ line) :=
    ⟨by simp +decide [unbroken], Text.unmarked_append (by decide) _⟩
  exact silent_remark aside

theorem silent_conflict (conflict : Conflict) : (remark (.conflict conflict)).Silent := by
  have unbroken : Unbroken conflict.remark := by
    cases conflict with
    | backward previous offset =>
        unfold Conflict.remark
        simp +decide
    | overlap previous offset bytes =>
        unfold Conflict.remark
        simp +decide
  have aside : Aside ("WARNING: " ++ conflict.remark) :=
    ⟨by simp +decide [unbroken], Text.unmarked_append (by decide) _⟩
  exact silent_remark aside

end Item

end LayoutRecovery
