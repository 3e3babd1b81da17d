import LayoutRecovery.Emission
import LayoutRecovery.Proofs.Scalar.Printed

/-!
# Decoding scalar assignments

The members of a printed scalar assignment follow from the width of its type and from the value: a
literal of 32 or 64 bits counts as a number with a fraction if its low half makes one that is
written without an exponent, and a wide one then holds two of them.
-/

namespace LayoutRecovery

/-- What a member says about its bytes: its type, its start, its size and its name. -/
def Member.outline (member : Member) : MemberType × Int × Nat × String :=
  (member.type, member.offset.toInt, member.size.toNat, member.name)

theorem Assignment.members_of_read? {assignment : Assignment} {literal : IntLiteral}
    (reads : IntLiteral.read? assignment.value.toList = some literal) (stem : String) :
    assignment.members stem = assignment.ofInteger stem literal := by
  unfold members
  rw [reads]

namespace ScalarWrite

variable (write : ScalarWrite)

/-- The low 32 bits of the value. -/
def low : UInt32 :=
  UInt32.ofNat (write.literal.value.toInt % 0x100000000).toNat

/-- Whether the value takes 64 bits: it says so itself, or the type does. -/
def isWide : Bool :=
  ("i64".toList).isSuffixOf ((Text.trim write.value).map Char.toLower)
    || decide (write.width = .bits64)

/-- The type, the distance from the offset and the size of the members of a numeric value. -/
def numericLayout : List (MemberType × Int × Nat) :=
  if (SingleText.ofBits write.low).isPlain then
    if write.isWide then
      if write.literal.value.toInt = 0 ∧ 8 ∣ write.offset then [(.long, 0, 8)]
      else [(.float, 0, 4), (.float, 4, 4)]
    else [(.float, 0, 4)]
  else if write.isWide then [(.long, 0, 8)]
  else [(.int, 0, 4)]

/-- The type, the distance from the offset and the size of the members. -/
def layout : List (MemberType × Int × Nat) :=
  match write.width with
  | .bits16 => [(.short, 0, 2)]
  | .bits8 => [(.bool, 0, 1)]
  | .bits128 => [(.bytes, 0, 16)]
  | .bits32 => write.numericLayout
  | .bits64 => write.numericLayout
  | .unknown => write.numericLayout

/-- The members at their offsets, each named after its own. -/
def outlines (stem : String) : List (MemberType × Int × Nat × String) :=
  write.layout.map fun (type, distance, bytes) =>
    (type, write.offset + distance, bytes,
      stem ++ (Offset.wrap (write.offset + distance)).suffix)

/-! ## Offsets -/

theorem toInt_wrap_displacement : (Offset.wrap write.displacement).toInt = write.offset :=
  Offset.toInt_wrap _

theorem wrap_offset : Offset.wrap write.offset = Offset.wrap write.displacement := by
  rw [← toInt_wrap_displacement, Offset.wrap_toInt]

theorem minimum_le_offset : Offset.minimum ≤ write.offset := by
  rw [← toInt_wrap_displacement]
  exact Offset.minimum_le_toInt _

theorem advance_four (room : write.offset + 4 ≤ Offset.maximum) :
    (Offset.wrap write.displacement).advance 4 = Offset.wrap (write.offset + 4) := by
  have lower := write.minimum_le_offset
  rw [Offset.advance, toInt_wrap_displacement, Offset.clamp]
  simp only [Offset.minimum, Offset.maximum] at lower room ⊢
  congr 1
  omega

/-! ## Members -/

theorem outline_single {assignment : Assignment} (offset : Offset)
    (target : assignment.target = .literal offset) (stem : String) (type : MemberType)
    {bytes : Nat} (small : bytes ≤ Size.maximum) (finding : String) :
    (assignment.single stem type bytes finding).outline =
      (type, offset.toInt, bytes, stem ++ offset.suffix) := by
  have size : (Size.clamp bytes).toNat = bytes := by
    rw [Size.toNat_clamp]
    exact Nat.min_eq_left small
  simp [Assignment.single, Member.outline, Member.withDetail, Member.atAddend, target, size,
    Addend.offset, Addend.suffix, Context.memberName]

theorem outline_here (stem : String) (type : MemberType) {bytes : Nat}
    (small : bytes ≤ Size.maximum) (finding : String) :
    (write.assignment.single stem type bytes finding).outline =
      (type, write.offset + 0, bytes, stem ++ (Offset.wrap (write.offset + 0)).suffix) := by
  rw [outline_single (Offset.wrap write.displacement) rfl stem type small finding,
    toInt_wrap_displacement, Int.add_zero, wrap_offset]

/-- The two halves of a wide value are outlined one behind the other. -/
theorem outline_packed (room : write.offset + 4 ≤ Offset.maximum) (stem low : String) :
    (write.assignment.packed stem write.literal low).map Member.outline =
      [(.float, write.offset + 0, 4, stem ++ (Offset.wrap (write.offset + 0)).suffix),
        (.float, write.offset + 4, 4, stem ++ (Offset.wrap (write.offset + 4)).suffix)] := by
  have small : 4 ≤ Size.maximum := by decide
  have lower := write.minimum_le_offset
  have behind : (Offset.wrap (write.offset + 4)).toInt = write.offset + 4 := by
    refine Offset.toInt_wrap_of_mem ?_ room
    omega
  have half : Assignment.secondHalf write.assignment.target =
      .literal (Offset.wrap (write.offset + 4)) := by
    rw [← write.advance_four room]
    rfl
  simp only [Assignment.packed, half, List.map_cons, List.map_nil, write.outline_here stem _ small]
  rw [outline_single (Offset.wrap (write.offset + 4)) rfl stem _ small, behind]

theorem isWide_eq :
    (write.literal.wide || decide (write.assignment.width = .bits64)) = write.isWide := by
  rw [IntLiteral.wide_of_read? write.reads, Text.isSome_before?]
  rfl

/-- A numeric value is laid out by what its low half makes and by how wide it is. -/
theorem outline_numeric (room : write.offset + 4 ≤ Offset.maximum) (stem : String) :
    (write.assignment.numeric stem write.literal).map Member.outline =
      write.numericLayout.map fun (type, distance, bytes) =>
        (type, write.offset + distance, bytes,
          stem ++ (Offset.wrap (write.offset + distance)).suffix) := by
  have four : 4 ≤ Size.maximum := by decide
  have eight : 8 ≤ Size.maximum := by decide
  have zero : write.literal.value = 0 ↔ write.literal.value.toInt = 0 :=
    Int64.toInt_inj.symm
  have aligned : write.assignment.target.offset.isAligned 8 = true ↔ 8 ∣ write.offset := by
    rw [← write.toInt_wrap_displacement]
    exact decide_eq_true_iff
  unfold Assignment.numeric numericLayout
  simp only [isWide_eq, IntLiteral.low_eq, zero, aligned]
  rw [← low]
  cases pattern : SingleText.ofBits write.low with
  | exponential text =>
      cases write.isWide with
      | true => simp [SingleText.isPlain, write.outline_here stem _ eight]
      | false => simp [SingleText.isPlain, write.outline_here stem _ four]
  | plain text =>
      cases write.isWide with
      | true =>
          by_cases whole : write.literal.value.toInt = 0 ∧ 8 ∣ write.offset
          · simp [SingleText.isPlain, whole, write.outline_here stem _ eight]
          · simp [SingleText.isPlain, whole, write.outline_packed room]
      | false => simp [SingleText.isPlain, write.outline_here stem _ four]

/-- The members of the assignment are laid out by the table. -/
theorem outline_members (room : write.offset + 4 ≤ Offset.maximum) (stem : String) :
    (write.assignment.members stem).map Member.outline = write.outlines stem := by
  have numeric := write.outline_numeric room stem
  have same : write.assignment.width = write.width := rfl
  rw [Assignment.members_of_read? write.read?_value, Assignment.ofInteger, outlines, layout, same]
  cases width : write.width with
  | bits8 => exact congrArg ([·]) (write.outline_here stem .bool (by decide) _)
  | bits16 => exact congrArg ([·]) (write.outline_here stem .short (by decide) _)
  | bits128 => exact congrArg ([·]) (write.outline_here stem .bytes (by decide) _)
  | bits32 => exact numeric
  | bits64 => exact numeric
  | unknown => exact numeric

/-! ## Lines -/

/-- A printed scalar assignment is taken as a write, and its members are placed one after the other
as the table has them: their types, their offsets, their sizes and their names. -/
theorem decodes_line (context : Context) (index : Nat) (next : Option SourceLine)
    (room : write.offset + 4 ≤ Offset.maximum) :
    LineKind.ofLine write.line = .write ∧
      ∃ (members : List Member) (log : List LogRecord),
        context.emit .write { index, text := String.ofList write.line } next =
            some
              { emission := .members (context.placeAll members).items
                log
                context := (context.placeAll members).context } ∧
          members.map Member.outline = write.outlines context.memberStem := by
  refine ⟨write.ofLine_line, write.assignment.members context.memberStem, ?_, ?_,
    write.outline_members room _⟩
  · exact write.assignment.log ++
      (context.placeAll (write.assignment.members context.memberStem)).log
  · simp only [Context.emit, Context.read, SourceLine.characters, String.toList_ofList,
      write.read?_line, Option.map_some, Context.perform, List.nil_append]

/-- The number one in the low half of eight bytes at offset 8 makes two members of four bytes. -/
theorem decodes_line_packed :
    let write : ScalarWrite :=
      { type := "__int64".toList
        width := .bits64
        named := by decide
        pointer := ['a', '1']
        tracked := by decide
        scaled := true
        negative := false
        token := ['1']
        magnitude := 1
        spells := ⟨{ hexadecimal := false, digits := ['1'] }, rfl, rfl, rfl, by decide, by decide,
          by decide⟩
        value := "0x3F800000".toList
        literal := { value := 0x3F800000, wide := false }
        reads := by decide }
    String.ofList write.line = "  *((__int64 *)a1 + 1) = 0x3F800000;" ∧
      write.offset + 4 ≤ Offset.maximum ∧ LineKind.ofLine write.line = .write ∧
        ∃ (members : List Member) (log : List LogRecord),
          (Context.initial {} "Unknown").emit .write
              { index := 0, text := String.ofList write.line } none =
              some
                { emission := .members ((Context.initial {} "Unknown").placeAll members).items
                  log
                  context := ((Context.initial {} "Unknown").placeAll members).context } ∧
            members.map Member.outline =
              [(.float, 8, 4, "Unknown8"), (.float, 12, 4, "UnknownC")] := by
  intro write
  have room : write.offset + 4 ≤ Offset.maximum := by decide +kernel
  obtain ⟨kind, members, log, emitted, outlines⟩ :=
    decodes_line write (Context.initial {} "Unknown") 0 none room
  refine ⟨by decide +kernel, room, kind, members, log, emitted, outlines.trans ?_⟩
  decide +kernel

end ScalarWrite

end LayoutRecovery
