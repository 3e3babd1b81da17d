import LayoutRecovery.Proofs.Addend.Shape
import LayoutRecovery.Reading.Assignment
import Mathlib.Data.List.Find

/-!
# Printed scalar assignments

A decompiler prints a scalar write as `*(TYPE *)(v1 + N) = VALUE;` or, counting in elements, as
`*((TYPE *)v1 + N) = VALUE;`.  Such a line is taken as a write, and it is cut into the offset that
the addend stands for, the width of the type and the value.
-/

namespace LayoutRecovery

/-- A scalar assignment through a tracked pointer. -/
structure ScalarWrite where
  /-- The type in the cast. -/
  type : List Char
  /-- How much the type takes. -/
  width : CastWidth
  /-- The type is one of known width. -/
  named : (type, width) ∈ CastWidth.names
  /-- The name of the pointer. -/
  pointer : List Char
  /-- The pointer is tracked. -/
  tracked : pointer ∈ Addend.pointers
  /-- Whether the addend counts in elements. -/
  scaled : Bool
  /-- Whether the addend is subtracted. -/
  negative : Bool
  /-- The token of the addend. -/
  token : List Char
  /-- The number that the token writes. -/
  magnitude : Nat
  /-- The token spells the number. -/
  spells : IntLiteral.Spells token magnitude
  /-- The value that is written. -/
  value : List Char
  /-- The literal that the value is read as. -/
  literal : IntLiteral
  /-- The value is a literal. -/
  reads : IntLiteral.read? value = some literal

namespace ScalarWrite

open Addend

variable (write : ScalarWrite)

/-- The left side of the assignment. -/
def target : List Char :=
  "  *".toList ++
    if write.scaled then scaledText write.type write.pointer write.negative write.token
    else castText write.type ++ plainText write.pointer write.negative write.token

/-- The whole line. -/
def line : List Char :=
  write.target ++ " = ".toList ++ (write.value ++ [';'])

/-- The sum of the pointer and the addend. -/
def sum : List Char :=
  sumText write.pointer write.negative write.token

/-- The left side up to the end of the cast. -/
def front : List Char :=
  "  *".toList ++ ((if write.scaled then ['('] else []) ++ '(' :: (write.type ++ [' ', '*']))

/-- The left side behind the cast. -/
def back : List Char :=
  (if write.scaled then [] else ['(']) ++ (write.sum ++ [')'])

theorem target_eq : write.target = write.front ++ ')' :: write.back := by
  unfold target front back
  cases write.scaled <;> simp [scaledText, castText, plainText, sum]

/-- The bytes that the addend stands for. -/
def displacement : Int :=
  Addend.displacement write.negative write.magnitude (if write.scaled then write.width.bytes else 1)

/-- The offset that is written to. -/
def offset : Int :=
  write.displacement.bmod 0x10000000000000000

/-! ## Characters -/

/-- Whether a character can stand behind the cast on the left side. -/
def isBackCharacter (character : Char) : Bool :=
  isSumCharacter character || character == '(' || character == ')'

theorem backCharacter_of_mem {character : Char} (inside : character ∈ write.back) :
    isBackCharacter character = true := by
  simp only [back, sum, List.mem_append, List.mem_singleton] at inside
  rcases inside with opening | inner | closing
  · split at opening
    · cases opening
    · rw [List.mem_singleton.mp opening]
      decide
  · simp [isBackCharacter,
      sumCharacter_of_mem write.tracked write.negative write.spells inner]
  · rw [closing]
    decide

theorem not_mem_back {character : Char} (foreign : isBackCharacter character = false) :
    character ∉ write.back := by
  intro inside
  rw [write.backCharacter_of_mem inside] at foreign
  exact Bool.noConfusion foreign

/-- The possible left sides up to the end of the cast, with their widths. -/
def fronts : List (List Char × CastWidth) :=
  CastWidth.names.flatMap fun (type, width) =>
    ["(", "(("].map fun opening =>
      ("  *".toList ++ (opening.toList ++ (type ++ [' ', '*'])), width)

theorem front_mem_fronts : (write.front, write.width) ∈ fronts := by
  unfold fronts
  rw [List.mem_flatMap]
  refine ⟨(write.type, write.width), write.named, ?_⟩
  unfold front
  cases write.scaled <;> simp

/-! ## The parts of the line -/

/-- No marker of a width reaches behind the cast. -/
theorem occursIn_target {marker : String} {width : CastWidth}
    (listed : (marker, width) ∈ CastWidth.markers) :
    Text.occursIn marker.toList write.target = Text.occursIn marker.toList write.front := by
  have foreign : ∀ entry ∈ CastWidth.markers,
      (entry.1.toList.any fun character => !isBackCharacter character) = true := by decide
  have unclosed : ∀ entry ∈ CastWidth.markers, ')' ∉ entry.1.toList ∧ entry.1.toList ≠ [] := by
    decide
  obtain ⟨absent, filled⟩ := unclosed _ listed
  obtain ⟨character, inside, outside⟩ := List.any_eq_true.mp (foreign _ listed)
  have behind : Text.occursIn marker.toList write.back = false :=
    Text.occursIn_eq_false_of_mem character inside (write.not_mem_back (by simpa using outside))
  rw [target_eq, Text.occursIn_append_cons absent filled, behind, Bool.or_false]

theorem detect_target : CastWidth.detect write.target = write.width := by
  have fronts_detected : ∀ entry ∈ fronts, CastWidth.detect entry.1 = entry.2 := by
    decide +kernel
  have same : CastWidth.detect write.target = CastWidth.detect write.front := by
    unfold CastWidth.detect
    rw [List.find?_congr fun _ listed => write.occursIn_target listed]
  rw [same]
  exact fronts_detected _ write.front_mem_fronts

theorem find?_target :
    find? write.target = some (Addend.literal (Offset.wrap write.displacement)) := by
  have typed := isTypeName_of_mem write.named
  have pointer_named := isPointerName_of_mem write.tracked
  have absent : '(' ∉ "  *".toList := by decide
  have clear : ∀ entry ∈ CastWidth.names,
      clearsPointers ("  *".toList ++ castText entry.1 ++ ['(']) = true := by decide
  unfold target displacement
  cases write.scaled with
  | true =>
      have found := find?_scaledText write.named pointer_named write.negative write.spells absent []
      simpa using found
  | false =>
      exact find?_plainText typed pointer_named write.negative write.spells absent
        (clear _ write.named)

theorem not_mem_target : '=' ∉ write.target := by
  have fronts_clear : ∀ entry ∈ fronts, '=' ∉ entry.1 := by decide
  rw [target_eq, List.mem_append, List.mem_cons, not_or, not_or]
  exact ⟨fronts_clear _ write.front_mem_fronts, by decide, write.not_mem_back (by decide)⟩

/-- The assignment that is read off the line. -/
def assignment : Assignment where
  target := Addend.literal (Offset.wrap write.displacement)
  width := write.width
  value := String.ofList (Text.trim write.value)

theorem read?_line : Assignment.read? write.line = some write.assignment := by
  have filled := IntLiteral.trim_ne_nil_of_read? write.reads
  simp only [Assignment.read?, line, Text.cut_equals _ write.not_mem_target, Option.bind_some,
    Text.beforeLast_append, if_neg filled, ofText, write.find?_target, Option.getD_some,
    write.detect_target]
  rfl

theorem read?_value : IntLiteral.read? write.assignment.value.toList = some write.literal := by
  rw [assignment, String.toList_ofList, IntLiteral.read?_trim]
  exact write.reads

/-! ## The kind of the line -/

/-- The line behind the cast. -/
def rest : List Char :=
  write.back ++ (" = ".toList ++ (write.value ++ [';']))

theorem line_eq : write.line = write.front ++ ')' :: write.rest := by
  simp [line, target_eq, rest]

/-- Whether a character is visible and stands neither in sums nor around the value. -/
def isForeign (character : Char) : Bool :=
  !(Text.isBlank character || isBackCharacter character || ['=', ';'].contains character)

theorem not_mem_rest (character : Char) (foreign : isForeign character = true) :
    character ∉ write.rest := by
  simp only [isForeign, Bool.not_eq_true', Bool.or_eq_false_iff] at foreign
  obtain ⟨⟨visible, outside⟩, elsewhere⟩ := foreign
  have back := write.not_mem_back outside
  simp only [isBackCharacter, isSumCharacter, Bool.or_eq_false_iff, beq_eq_false_iff_ne,
    ne_eq] at outside
  have blank_free : character ≠ ' ' := outside.1.1.1.2
  have value := IntLiteral.not_mem_of_read? write.reads visible outside.1.1.2 outside.1.1.1.1.1
  simp only [List.contains_eq_mem, decide_eq_false_iff_not, List.mem_cons, List.not_mem_nil,
    or_false, not_or] at elsewhere
  simp [rest, back, value, blank_free, elsewhere.1, elsewhere.2]

theorem isLoop_line : LineKind.isLoop write.line = false := by
  have fronts_clear : ∀ entry ∈ fronts,
      Text.occursIn "  do".toList entry.1 = false ∧ 'w' ∉ entry.1 := by decide +kernel
  obtain ⟨no_do, no_w⟩ := fronts_clear _ write.front_mem_fronts
  have no_o := write.not_mem_rest 'o' (by decide)
  have later_w := write.not_mem_rest 'w' (by decide)
  have without_do : Text.occursIn "  do".toList write.line = false := by
    rw [line_eq, Text.occursIn_append_cons (by decide) (by decide), no_do,
      Text.occursIn_eq_false_of_mem 'o' (by decide) no_o]
    rfl
  have without_while : Text.occursIn "  while".toList write.line = false := by
    refine Text.occursIn_eq_false_of_mem 'w' (by decide) ?_
    rw [line_eq]
    simp [no_w, later_w]
  rw [LineKind.isLoop, Bool.or_eq_false_iff]
  constructor
  · exact Bool.eq_false_iff.mpr fun found =>
      Bool.noConfusion (without_do.symm.trans (LineKind.occursIn_of_marks found))
  · exact Bool.eq_false_iff.mpr fun found =>
      Bool.noConfusion (without_while.symm.trans (LineKind.occursIn_of_marks found))

theorem isCopy_line : LineKind.isCopy write.line = false := by
  have fronts_clear : ∀ entry ∈ fronts, 'y' ∉ entry.1 := by decide
  have no_y := fronts_clear _ write.front_mem_fronts
  have later_y := write.not_mem_rest 'y' (by decide)
  refine Text.occursIn_eq_false_of_mem 'y' (by decide) ?_
  rw [line_eq]
  simp [no_y, later_y]

theorem mentionsPointer_line : LineKind.mentionsPointer write.line = true := by
  have named := LineKind.mentionsPointer_of_isPointerName (isPointerName_of_mem write.tracked)
    (signText write.negative ++ write.token ++ [')'] ++ " = ".toList ++ (write.value ++ [';']))
  have shape : write.line = (write.front ++ ')' :: if write.scaled then [] else ['(']) ++
      (write.pointer ++ (signText write.negative ++ write.token ++ [')'] ++ " = ".toList ++
        (write.value ++ [';']))) := by
    simp [line_eq, rest, back, sum, sumText]
  rw [shape]
  exact LineKind.mentionsPointer_append _ named

theorem isAssignment_line : LineKind.isAssignment write.line = true := by
  have fronts_open : ∀ entry ∈ fronts, Text.occursIn "*(".toList entry.1 = true := by decide
  have opening : Text.occursIn "*(".toList write.line = true := by
    rw [line_eq]
    exact Text.occursIn_append_of_left _ (fronts_open _ write.front_mem_fronts)
  have closing : Text.occursIn "*)".toList write.line = true := by
    refine Text.occursIn_iff.mpr ⟨"  *".toList ++
      ((if write.scaled then ['('] else []) ++ '(' :: (write.type ++ [' '])), write.rest, ?_⟩
    simp [line_eq, front]
  have equals : Text.occursIn " = ".toList write.line = true :=
    Text.occursIn_iff.mpr ⟨write.target, write.value ++ [';'], rfl⟩
  rw [LineKind.isAssignment, opening, closing, equals]
  rfl

theorem ofLine_line : LineKind.ofLine write.line = .write := by
  simp only [LineKind.ofLine, write.isLoop_line, write.mentionsPointer_line, write.isCopy_line,
    write.isAssignment_line]
  rfl

end ScalarWrite

end LayoutRecovery
