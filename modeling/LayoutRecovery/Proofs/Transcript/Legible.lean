import LayoutRecovery.Proofs.Naming.Token
import LayoutRecovery.Proofs.Placement.Frame
import LayoutRecovery.Proofs.Text.Lines
import LayoutRecovery.Stub

/-!
# Legible members

Whatever a line says, what is written about its members stays on the lines it is written on, and no
comment above them reads like a copy of an input line.  Numbers, symbols and everything cut out of
the line hold no line feed, and each comment opens with words of its own.
-/

namespace LayoutRecovery

open Text (Unbroken)

/-! ## Numbers -/

theorem Numeral.newline_not_mem_toDigits (number : Nat) : '\n' ∉ Nat.toDigits 10 number := by
  intro inside
  exact absurd (Nat.isDigit_of_mem_toDigits (by decide) (by decide) inside) (by decide)

theorem Numeral.newline_not_mem_upperHex (number : Nat) : '\n' ∉ upperHex number :=
  (isToken_upperHex number).notMem (by decide)

theorem Numeral.unbroken_word32Hex (word : UInt32) : Unbroken (word32Hex word) :=
  (isToken_word32Hex word).notMem (by decide)

@[simp]
theorem Text.unbroken_repr_nat (number : Nat) : Unbroken number.repr := by
  rw [Unbroken, Nat.toList_repr]
  exact Numeral.newline_not_mem_toDigits number

@[simp]
theorem Text.unbroken_repr_int (number : Int) : Unbroken number.repr := by
  cases number with
  | ofNat magnitude => exact unbroken_repr_nat magnitude
  | negSucc magnitude =>
      have sign : Unbroken "-" := by decide
      exact unbroken_append.mpr ⟨sign, unbroken_repr_nat _⟩

namespace Offset

@[simp]
theorem unbroken_text (offset : Offset) : Unbroken offset.text :=
  Text.unbroken_repr_int _

@[simp]
theorem unbroken_suffix (offset : Offset) : Unbroken offset.suffix :=
  offset.isToken_suffix.notMem (by decide)

end Offset

namespace Size

@[simp]
theorem unbroken_text (size : Size) : Unbroken size.text :=
  Text.unbroken_repr_nat _

@[simp]
theorem unbroken_hex (size : Size) : Unbroken size.hex := by
  have mark : Unbroken "0x" := by decide
  simp [hex, mark, Numeral.newline_not_mem_upperHex]

end Size

namespace Decimal

theorem DigitRow.newline_not_mem_positional {row : DigitRow} (solid : '\n' ∉ row.digits) :
    '\n' ∉ row.positional := by
  unfold positional
  split
  · decide
  · split
    · simp [solid]
    · dsimp only
      split
      · simp [solid]
      · have front : '\n' ∉ row.digits.take row.point.toNat :=
          fun inside => solid (List.mem_of_mem_take inside)
        have back : '\n' ∉ row.digits.drop row.point.toNat :=
          fun inside => solid (List.mem_of_mem_drop inside)
        simp [front, back]

theorem newline_not_mem_digitRow (decimal : Decimal) : '\n' ∉ decimal.digitRow.digits :=
  fun inside => Numeral.newline_not_mem_toDigits _ (Text.dropEndWhile_subset _ _ inside)

end Decimal

theorem BinaryFormat.unbroken_write (format : BinaryFormat) (bits : Nat) :
    Unbroken (format.write Decimal.DigitRow.positional bits) := by
  unfold write
  cases format.decode bits with
  | nan => exact (by decide : Unbroken "NaN")
  | infinite negative =>
      cases negative with
      | false => exact (by decide : Unbroken "inf")
      | true => exact (by decide : Unbroken "-inf")
  | finite negative significand exponent =>
      have zero : '\n' ∉ Decimal.DigitRow.positional ⟨[], 0⟩ := by decide
      have digits := Decimal.DigitRow.newline_not_mem_positional (Decimal.newline_not_mem_digitRow
        (Decimal.Span.ofFinite format significand exponent).shortest)
      dsimp only
      rw [Text.unbroken_ofList]
      by_cases empty : significand = 0
      · cases negative <;> simp [empty, zero]
      · cases negative <;> simp [empty, digits]

@[simp]
theorem Double.unbroken_text (number : Double) : Unbroken number.text :=
  BinaryFormat.unbroken_write _ _

theorem SingleText.unbroken_of_plain {bits : UInt32} {low : String}
    (found : ofBits bits = .plain low) : Unbroken low := by
  unfold ofBits at found
  split at found
  · rw [← SingleText.plain.inj found]
    exact BinaryFormat.unbroken_write _ _
  · cases found

/-! ## Addends -/

namespace Addend

@[simp]
theorem unbroken_suffix_literal (offset : Offset) : Unbroken (literal offset).suffix :=
  offset.unbroken_suffix

@[simp]
theorem unbroken_suffix_symbolic {token : String} :
    Unbroken (symbolic token).suffix ↔ Unbroken token := by
  have ending : Unbroken "_int" := by decide
  simp [suffix, ending]

@[simp]
theorem unbroken_suffix_ofText (text : List Char) : Unbroken (ofText text).suffix :=
  (readable_ofText text).isToken_suffix.notMem (by decide)

end Addend

/-! ## Members -/

/-- A comment that stays on its line and does not open like a copy of an input line. -/
structure Aside (comment : String) : Prop where
  unbroken : Unbroken comment
  other : Text.after? "line: ".toList comment.toList = none

/-- A member that is written on the lines of its declaration and of comments. -/
structure Member.Legible (member : Member) : Prop where
  name : Unbroken member.name
  type : Unbroken member.type.keyword
  sizeLabel : ∀ label ∈ member.sizeLabel, Unbroken label
  notes : ∀ note ∈ member.notes, Aside note
  detail : ∀ detail ∈ member.detail, Unbroken detail

namespace Member

theorem legible_atAddend {stem : String} (stem_unbroken : Unbroken stem) {addend : Addend}
    (suffix_unbroken : Unbroken addend.suffix) {type : MemberType}
    (type_unbroken : Unbroken type.keyword) (size : Size) :
    (atAddend stem addend type size).Legible where
  name := Text.unbroken_append.mpr ⟨stem_unbroken, suffix_unbroken⟩
  type := type_unbroken
  sizeLabel := by simp [atAddend]
  notes note inside := by
    cases addend with
    | literal offset => cases inside
    | symbolic token =>
        obtain rfl := List.mem_singleton.mp inside
        have token_unbroken := Addend.unbroken_suffix_symbolic.mp suffix_unbroken
        exact ⟨by simp +decide [token_unbroken], by simp [Text.after?]⟩
  detail := by simp [atAddend]

theorem Legible.withNote {member : Member} (legible : member.Legible) {note : String}
    (aside : Aside note) : (member.withNote note).Legible where
  name := legible.name
  type := legible.type
  sizeLabel := legible.sizeLabel
  notes other inside := by
    rcases List.mem_append.mp inside with inside | last
    · exact legible.notes other inside
    · rw [List.mem_singleton.mp last]
      exact aside
  detail := legible.detail

theorem Legible.withDetail {member : Member} (legible : member.Legible) {detail : String}
    (unbroken : Unbroken detail) : (member.withDetail detail).Legible where
  name := legible.name
  type := legible.type
  sizeLabel := legible.sizeLabel
  notes := legible.notes
  detail other inside := by
    rw [← Option.some.inj inside]
    exact unbroken

theorem Legible.withSizeLabel {member : Member} (legible : member.Legible) {label : Option String}
    (unbroken : ∀ text ∈ label, Unbroken text) : { member with sizeLabel := label }.Legible where
  name := legible.name
  type := legible.type
  sizeLabel := unbroken
  notes := legible.notes
  detail := legible.detail

end Member

/-! ## Assignments -/

namespace Assignment

/-- An assignment whose parts hold no line feed. -/
structure Legible (assignment : Assignment) : Prop where
  target : Unbroken assignment.target.suffix
  value : Unbroken assignment.value

theorem legible_of_read? {line : List Char} (unbroken : '\n' ∉ line) {assignment : Assignment}
    (found : read? line = some assignment) : assignment.Legible := by
  obtain ⟨⟨target, source⟩, cut, rest⟩ := Option.bind_eq_some_iff.mp found
  dsimp only at rest
  split at rest
  · cases rest
  · obtain rfl := Option.some.inj rest
    refine ⟨Addend.unbroken_suffix_ofText target, Text.unbroken_ofList.mpr fun inside => ?_⟩
    have behind := Text.beforeLast_subset _ _ (Text.trim_subset _ inside)
    rw [Text.eq_append_of_cut cut] at unbroken
    exact unbroken (List.mem_append_right _ behind)

theorem unbroken_suffix_secondHalf {addend : Addend} (unbroken : Unbroken addend.suffix) :
    Unbroken (secondHalf addend).suffix := by
  cases addend with
  | literal offset => exact Addend.unbroken_suffix_literal _
  | symbolic token =>
      have token_unbroken := Addend.unbroken_suffix_symbolic.mp unbroken
      exact Addend.unbroken_suffix_symbolic.mpr (by simp +decide [token_unbroken])

variable {assignment : Assignment} (legible : assignment.Legible) {stem : String}
  (stem_unbroken : Unbroken stem)

include legible stem_unbroken

theorem legible_single {type : MemberType} (type_unbroken : Unbroken type.keyword) (bytes : Nat)
    {finding : String} (finding_unbroken : Unbroken finding) :
    (assignment.single stem type bytes finding).Legible :=
  (Member.legible_atAddend stem_unbroken legible.target type_unbroken _).withDetail
    (by simp +decide [legible.value, finding_unbroken])

theorem legible_packed (literal : IntLiteral) {low : String} (low_unbroken : Unbroken low) :
    ∀ member ∈ assignment.packed stem literal low, member.Legible := by
  have float : Unbroken MemberType.float.keyword := by decide
  have half : { assignment with target := secondHalf assignment.target }.Legible :=
    ⟨unbroken_suffix_secondHalf legible.target, legible.value⟩
  have parsed :
      Unbroken ("parsed: " ++ low ++ ", comment: " ++ packedComment ++ " (1/2 of 2)") := by
    simp +decide [low_unbroken]
  have undecoded : Unbroken (if literal.high = 0 then ""
      else ", high dword 0x" ++ String.ofList (Numeral.upperHex literal.high.toNat)
        ++ " not decoded") := by
    split
    · decide
    · simp +decide [Numeral.newline_not_mem_upperHex]
  have remainder : Unbroken ("parsed: 0, comment: " ++ packedComment ++ " (2/2 of 2)" ++
      if literal.high = 0 then ""
      else ", high dword 0x" ++ String.ofList (Numeral.upperHex literal.high.toNat)
        ++ " not decoded") := by
    simp +decide only [Text.unbroken_append, undecoded]
  have shifted : Aside "placed 4 bytes after the first half" :=
    ⟨Text.unbroken_ofList.mpr (by decide), by simp [Text.after?]⟩
  have first := legible_single legible stem_unbroken float 4 parsed
  have second := legible_single half stem_unbroken float 4 remainder
  unfold packed
  dsimp only
  split
  · exact List.forall_mem_cons.mpr ⟨first, List.forall_mem_singleton.mpr second⟩
  · exact List.forall_mem_cons.mpr
      ⟨first, List.forall_mem_singleton.mpr (second.withNote shifted)⟩

theorem legible_numeric (literal : IntLiteral) :
    ∀ member ∈ assignment.numeric stem literal, member.Legible := by
  unfold numeric
  dsimp only
  split
  · refine List.forall_mem_singleton.mpr (legible_single legible stem_unbroken ?_ _
      (by simp +decide [IntLiteral.text]))
    split <;> decide
  · next low found =>
    have low_unbroken := SingleText.unbroken_of_plain found
    split
    · split
      · exact List.forall_mem_singleton.mpr (legible_single legible stem_unbroken (by decide) _
          (Text.unbroken_ofList.mpr (by decide)))
      · exact legible_packed legible stem_unbroken literal low_unbroken
    · exact List.forall_mem_singleton.mpr (legible_single legible stem_unbroken (by decide) _
        (by simp +decide [low_unbroken]))

theorem legible_ofInteger (literal : IntLiteral) :
    ∀ member ∈ assignment.ofInteger stem literal, member.Legible := by
  have numeric := legible_numeric legible stem_unbroken literal
  have parsed : Unbroken ("parsed: " ++ literal.text) := by simp +decide [IntLiteral.text]
  unfold ofInteger
  cases assignment.width with
  | bits8 =>
      exact List.forall_mem_singleton.mpr
        (legible_single legible stem_unbroken (by decide) _ parsed)
  | bits16 =>
      exact List.forall_mem_singleton.mpr
        (legible_single legible stem_unbroken (by decide) _ parsed)
  | bits128 =>
      exact List.forall_mem_singleton.mpr (legible_single legible stem_unbroken (by decide) _
        (Text.unbroken_ofList.mpr (by decide)))
  | bits32 => exact numeric
  | bits64 => exact numeric
  | unknown => exact numeric

theorem legible_members : ∀ member ∈ assignment.members stem, member.Legible := by
  unfold members
  split
  · exact legible_ofInteger legible stem_unbroken _
  · split
    · refine List.forall_mem_singleton.mpr (legible_single legible stem_unbroken ?_ _
        (by simp +decide))
      split <;> decide
    · refine List.forall_mem_singleton.mpr (legible_single legible stem_unbroken ?_ _
        (Text.unbroken_ofList.mpr (by decide)))
      cases assignment.width <;> decide

end Assignment

/-! ## Copies and calls -/

namespace Copy

/-- A copy whose parts hold no line feed. -/
structure Legible (copy : Copy) : Prop where
  target : Unbroken copy.target.suffix
  source : Unbroken copy.source
  sizeText : Unbroken copy.sizeText

theorem sizeArgument_subset (argument : List Char) : sizeArgument argument ⊆ argument :=
  List.Subset.trans (Text.trim_subset _) <|
    List.Subset.trans (Text.dropEndWhile_subset _ _) <|
      List.Subset.trans (Text.dropEndWhile_subset _ _) (Text.trim_subset argument)

theorem legible_of_read {line : List Char} (unbroken : '\n' ∉ line) {copy : Copy}
    (found : read line = .ok copy) : copy.Legible := by
  unfold read at found
  split at found
  · next target source size pieces =>
    obtain rfl := Except.ok.inj found
    have solid : ∀ piece ∈ [target, source, size], '\n' ∉ piece := by
      intro piece cut inside
      rw [← pieces] at cut
      exact unbroken (Text.mem_and_ne_of_mem_splitOn cut inside).1
    refine ⟨Addend.unbroken_suffix_ofText target, ?_, ?_⟩
    · exact Text.unbroken_ofList.mpr fun inside =>
        solid source (by simp) (Text.trim_subset source inside)
    · exact Text.unbroken_ofList.mpr fun inside =>
        solid size (by simp) (sizeArgument_subset size inside)
  · cases found

theorem legible_member {copy : Copy} (legible : copy.Legible) {stem : String}
    (stem_unbroken : Unbroken stem) : (copy.member stem).Legible := by
  have origin : Unbroken ("origin: " ++ copy.source) := by simp +decide [legible.source]
  have plain := fun size => (Member.legible_atAddend stem_unbroken legible.target
    (show Unbroken MemberType.string.keyword by decide) size).withDetail origin
  unfold member
  split
  · exact plain _
  · have unsized : Aside ("size `" ++ copy.sizeText ++ "` is not a literal") :=
      ⟨by simp +decide [legible.sizeText], by simp [Text.after?]⟩
    exact ((plain Size.zero).withNote unsized).withSizeLabel (by simp +decide)

end Copy

namespace Call

theorem calleeName_subset (line : List Char) : calleeName line ⊆ line := by
  have head : (Text.trim line).takeWhile (· != '(') ⊆ line :=
    List.Subset.trans (List.takeWhile_prefix _).subset (Text.trim_subset line)
  intro character inside
  unfold calleeName at inside
  dsimp only at inside
  cases last : ((((Text.trim line).takeWhile (· != '(')).splitOnP fun character =>
      Text.isBlank character || character == '=').filter fun part => !part.isEmpty).getLast? with
  | none =>
      rw [last] at inside
      exact head inside
  | some part =>
      rw [last] at inside
      have cut := (List.mem_filter.mp (List.mem_of_getLast? last)).1
      exact head (Text.mem_and_not_of_mem_splitOnP cut inside).1

/-- A call whose parts hold no line feed. -/
structure Legible (call : Call) : Prop where
  target : Unbroken call.target.suffix
  callee : Unbroken call.callee
  origin : Unbroken call.origin

theorem legible_ofLine {line : SourceLine} (unbroken : Unbroken line.text) :
    (ofLine line).Legible where
  target := Addend.unbroken_suffix_ofText _
  callee := Text.unbroken_ofList.mpr fun inside => unbroken (calleeName_subset _ inside)
  origin := Text.unbroken_ofList.mpr fun inside => unbroken (Text.trim_subset _ inside)

variable {call : Call} (legible : call.Legible)

include legible

theorem legible_expanded {subroutine : Subroutine}
    (type_unbroken : Unbroken subroutine.targetType) : (call.expanded subroutine).Legible := by
  have note : Aside ("call to subroutine: " ++ call.callee ++ ", expanded as " ++
      subroutine.targetType) :=
    ⟨by simp +decide [legible.callee, type_unbroken], by simp [Text.after?]⟩
  have keyword : Unbroken (MemberType.named subroutine.targetType).keyword := type_unbroken
  have named := Member.legible_atAddend type_unbroken legible.target keyword subroutine.size
  exact (named.withNote note).withDetail (by simp +decide [legible.origin])

theorem legible_placeholder (size : Option Size) : (call.placeholder size).Legible := by
  have named : Aside ("call to subroutine: " ++ call.callee) :=
    ⟨by simp +decide [legible.callee], by simp [Text.after?]⟩
  have filling : Aside "filling with bytes as there is no way to expand it for now" :=
    ⟨Text.unbroken_ofList.mpr (by decide), by simp [Text.after?]⟩
  have bytes := Member.legible_atAddend (show Unbroken "Subroutine" by decide) legible.target
    (show Unbroken MemberType.bytes.keyword by decide) (size.getD Size.zero)
  refine ((((bytes.withNote named).withNote filling).withDetail
    (by simp +decide [legible.origin])).withSizeLabel ?_)
  cases size <;> simp +decide

end Call

/-! ## Readings -/

/-- A context whose names hold no line feed. -/
structure Context.Legible (context : Context) : Prop where
  memberStem : Unbroken context.memberStem
  subroutines : ∀ subroutine ∈ context.subroutines, Unbroken subroutine.targetType
  className : ∀ name ∈ context.className, Unbroken name

theorem Context.Legible.of_sameSettings {before after : Context} (legible : before.Legible)
    (same : before.SameSettings after) : after.Legible where
  memberStem := same.memberStem ▸ legible.memberStem
  subroutines := same.subroutines ▸ legible.subroutines
  className := same.className ▸ legible.className

/-- Whatever a line says, its members are legible. -/
theorem Context.Legible.declared {context : Context} (legible : context.Legible)
    {kind : LineKind} {line : SourceLine} (unbroken : Unbroken line.text)
    {next : Option SourceLine} {reading : Reading} {log : List LogRecord}
    (found : context.read kind line next = some (reading, log)) :
    ∀ member ∈ reading.declared, member.Legible := by
  cases kind with
  | inert => cases found
  | loop =>
      cases found
      exact List.forall_mem_nil _
  | write =>
      simp only [read] at found
      split at found
      · next assignment read =>
        cases found
        simp only [Reading.declared]
        exact Assignment.legible_members (Assignment.legible_of_read? unbroken read)
          legible.memberStem
      · cases found
        exact List.forall_mem_nil _
  | copy =>
      simp only [read] at found
      split at found
      · next copy read =>
        cases found
        have member := Copy.legible_member (Copy.legible_of_read unbroken read) legible.memberStem
        simp only [Copy.reading]
        split
        · exact List.forall_mem_singleton.mpr member
        · exact List.forall_mem_singleton.mpr member
      · cases found
        exact List.forall_mem_nil _
  | call =>
      cases found
      have parts := Call.legible_ofLine unbroken
      simp only [Call.reading]
      split
      · exact List.forall_mem_nil _
      · split
        · next subroutine known =>
          have type := legible.subroutines subroutine (List.mem_of_find?_eq_some known)
          exact List.forall_mem_singleton.mpr (Call.legible_expanded parts type)
        · exact List.forall_mem_singleton.mpr (Call.legible_placeholder parts _)

/-! ## Paddings -/

theorem Tally.aside_gapHint (gap : Nat) (previous : Offset) (afterString : Bool) :
    Aside (gapHint gap previous afterString) := by
  have contains : ∀ {kind : String}, Unbroken kind →
      Aside ("does " ++ previous.text ++ kind) := by
    intro kind unbroken
    exact ⟨by simp +decide [unbroken], by simp [Text.after?]⟩
  unfold gapHint
  split
  · exact ⟨by simp +decide, by simp [Text.after?]⟩
  · split
    case h_6 => exact ⟨Text.unbroken_ofList.mpr (by decide), Text.unmarked_ofList (by decide)⟩
    all_goals exact contains (Text.unbroken_ofList.mpr (by decide))

theorem Tally.legible_padding (tally : Tally) (gap : Nat) (afterString : Bool) :
    (tally.padding gap afterString).Legible where
  name := Text.unbroken_append.mpr ⟨by decide, Offset.unbroken_suffix _⟩
  type := (by decide : Unbroken MemberType.bytes.keyword)
  sizeLabel label absent := by cases absent
  notes := by
    have missing : Aside ("missing " ++ toString gap ++ " bytes at offset " ++
        tally.cursor.stop.text) := ⟨by simp +decide, by simp [Text.after?]⟩
    exact List.forall_mem_cons.mpr ⟨missing, List.forall_mem_singleton.mpr (aside_gapHint _ _ _)⟩
  detail detail same := by
    rw [← Option.some.inj same]
    exact Text.unbroken_ofList.mpr (by decide)

theorem Context.legible_endPadding (context : Context) (declared : Size) :
    (context.endPadding declared).Legible where
  name := Text.unbroken_append.mpr ⟨by decide, Offset.unbroken_suffix _⟩
  type := (by decide : Unbroken MemberType.bytes.keyword)
  sizeLabel label absent := by cases absent
  notes := by
    have missing : Aside ("missing " ++
        toString (declared.toNat - context.tally.accumulated.toNat) ++
        " bytes at the end of the structure") := ⟨by simp +decide, by simp [Text.after?]⟩
    exact List.forall_mem_singleton.mpr missing
  detail detail same := by
    rw [← Option.some.inj same]
    exact Text.unbroken_ofList.mpr (by decide)

end LayoutRecovery
