import LayoutRecovery.Proofs.Addend.Argument
import LayoutRecovery.Proofs.Placement.Agreement

/-!
# Printed string copies

A decompiler prints a string copy as `strncpy(v1 + N, "text", SIZE);`, with or without a cast of the
destination.  The two commas alone cut the line, and the destination is read in front of the first
of them, so that the copied text may look like anything else that is read off lines: it changes
neither where the string is placed nor how many bytes it takes.
-/

namespace LayoutRecovery

namespace Text

theorem trimEnd_concat (front : List Char) {last : Char} (visible : isBlank last = false) :
    trimEnd (front ++ [last]) = front ++ [last] := by
  rw [trimEnd_eq_rdropWhile, List.rdropWhile_concat_neg _ _ _ (by simp [visible])]

theorem trim_trimStart (text : List Char) : trim (trimStart text) = trim text := by
  rw [trim, trim, trimStart, trimStart, List.dropWhile_idempotent]

end Text

namespace Copy

theorem sizeArgument_append {size : List Char} (unclosed : ')' ∉ size) :
    sizeArgument (' ' :: (size ++ [')', ';'])) = Text.trim size := by
  have trimmed : Text.trim (' ' :: (size ++ [')', ';'])) =
      Text.trimStart size ++ [')'] ++ [';'] := by
    have starts : Text.trimStart (' ' :: (size ++ [')', ';'])) =
        Text.trimStart size ++ [')', ';'] :=
      Text.trimStart_append_cons size (by decide) [';']
    rw [Text.trim, starts, List.append_cons]
    exact Text.trimEnd_concat _ (show Text.isBlank ';' = false by decide)
  have open_end : (Text.trimStart size).rdropWhile (· == ')') = Text.trimStart size := by
    refine List.rdropWhile_eq_self_iff.mpr fun filled closes => unclosed ?_
    rw [← beq_iff_eq.mp closes]
    exact (List.dropWhile_suffix _).subset (List.getLast_mem filled)
  have behind : Text.dropEndWhile (· == ';') (Text.trimStart size ++ [')'] ++ [';']) =
      Text.trimStart size ++ [')'] := by
    change List.rdropWhile (· == ';') _ = _
    rw [List.rdropWhile_concat_pos _ _ _ (by decide), List.rdropWhile_concat_neg _ _ _ (by decide)]
  have closing : Text.dropEndWhile (· == ')') (Text.trimStart size ++ [')']) =
      Text.trimStart size := by
    change List.rdropWhile (· == ')') _ = _
    rw [List.rdropWhile_concat_pos _ _ _ (by decide), open_end]
  rw [sizeArgument, trimmed, behind, closing, Text.trim_trimStart]

end Copy

/-- How the destination of a string copy is printed. -/
inductive DestinationShape where
  /-- The sum by itself. -/
  | bare
  /-- The sum behind a cast. -/
  | cast
  /-- The sum in parentheses, behind a cast. -/
  | enclosed
  deriving DecidableEq

/-- The line up to the sum. -/
def DestinationShape.opening : DestinationShape → List Char
  | bare => "  strncpy(".toList
  | cast => "  strncpy((char *)".toList
  | enclosed => "  strncpy((char *)(".toList

/-- The destination behind the sum. -/
def DestinationShape.closing : DestinationShape → List Char
  | bare => []
  | cast => []
  | enclosed => [')']

/-- A string copy through a tracked pointer. -/
structure StringCopy where
  /-- How the destination is printed. -/
  shape : DestinationShape
  /-- The name of the pointer. -/
  pointer : List Char
  /-- The pointer is tracked. -/
  tracked : pointer ∈ Addend.pointers
  /-- Whether the addend is subtracted. -/
  negative : Bool
  /-- The token of the addend. -/
  token : List Char
  /-- The number that the token writes. -/
  magnitude : Nat
  /-- The token spells the number. -/
  spells : IntLiteral.Spells token magnitude
  /-- The text between the quotes. -/
  content : List Char
  /-- The text holds no comma. -/
  whole : ',' ∉ content
  /-- The size that is copied. -/
  size : List Char
  /-- The literal that the size is read as. -/
  literal : IntLiteral
  /-- The size is a literal. -/
  reads : IntLiteral.read? size = some literal
  /-- The size is not negative. -/
  positive : 0 ≤ literal.value.toInt

namespace StringCopy

open Addend

variable (copy : StringCopy)

/-- The sum of the pointer and the addend. -/
def sum : List Char :=
  sumText copy.pointer copy.negative copy.token

/-- The line in front of the first comma. -/
def target : List Char :=
  copy.shape.opening ++ (copy.sum ++ copy.shape.closing)

/-- The text that is copied, in quotes. -/
def quoted : List Char :=
  '"' :: (copy.content ++ ['"'])

/-- The whole line. -/
def line : List Char :=
  copy.target ++ ", ".toList ++ copy.quoted ++ ", ".toList ++ copy.size ++ ");".toList

/-- Where the string is placed. -/
def offset : Offset :=
  Offset.wrap (displacement copy.negative copy.magnitude 1)

/-- How many bytes it takes. -/
def bytes : Size :=
  Size.clamp copy.literal.value.toInt.toNat

/-- The member that is declared for it. -/
def member (stem : String) : Member where
  name := stem ++ copy.offset.suffix
  offset := copy.offset
  type := .string
  size := copy.bytes
  detail := some ("origin: " ++ String.ofList copy.quoted)

/-! ## The destination -/

theorem isPointerName_pointer : isPointerName copy.pointer = true :=
  isPointerName_of_mem copy.tracked

theorem not_mem_sum {character : Char} (foreign : isSumCharacter character = false) :
    character ∉ copy.sum :=
  not_mem_sumText_of_foreign copy.tracked copy.negative copy.spells foreign

theorem trimStart_sum (rest : List Char) :
    Text.trimStart (copy.sum ++ rest) = copy.sum ++ rest :=
  trimStart_sumText copy.isPointerName_pointer copy.negative copy.token rest

/-- The destination as a scaled pointer, if it is printed behind a cast alone. -/
def scaledPointer : ScaledPointer where
  type := "char".toList
  width := .bits8
  listed := by decide
  pointer := copy.pointer
  tracked := copy.tracked
  negative := copy.negative
  token := copy.token
  magnitude := copy.magnitude
  spells := copy.spells

/-- The parenthesis of the call closes behind the destination, so that no addend is scaled. -/
theorem scaled?_target : scaled? copy.target = none := by
  have name_flat : '(' ∉ "  strncpy".toList := by decide
  have sum_flat : '(' ∉ copy.sum := copy.not_mem_sum (by decide)
  have typed : isTypeName "char".toList = true := by decide
  have sum_filled : copy.sum ≠ [] := by
    simp [sum, sumText, signText]
  unfold target
  cases copy.shape with
  | bare =>
      have single := scaled?_of_single sum_filled sum_flat [] (copy.trimStart_sum [])
      exact (scaled?_append name_flat _).trans single
  | cast =>
      have opened := copy.scaledPointer.scaled?_opened name_flat
      have shape : "  strncpy".toList ++ '(' :: copy.scaledPointer.text =
          DestinationShape.cast.opening ++ (copy.sum ++ []) := by
        rw [List.append_nil]
        rfl
      rwa [shape] at opened
  | enclosed =>
      have here := scaledHere?_castText_parenthesis typed (copy.sum ++ [')'])
      have inner := scaled?_castText typed (show '(' ∉ [] by simp) sum_flat
        (copy.trimStart_sum [')'])
      have shape : DestinationShape.enclosed.opening ++ (copy.sum ++ [')']) =
          "  strncpy".toList ++
            '(' :: (castText "char".toList ++ '(' :: (copy.sum ++ [')'])) := rfl
      rw [List.nil_append] at inner
      rw [DestinationShape.closing, shape, scaled?_append name_flat, scaled?, here, inner]
      rfl

theorem plain?_target : plain? copy.target =
    some { negative := copy.negative, token := copy.token, rest := copy.shape.closing } := by
  have stops : Stops copy.shape.closing := by
    intro first starts
    cases shape : copy.shape <;> rw [shape] at starts <;> cases starts
    decide
  have here : plainHere? (copy.sum ++ copy.shape.closing) = _ :=
    plainHere?_append copy.isPointerName_pointer copy.negative copy.spells.ne_nil
      (fun _ inside => copy.spells.identifier_of_mem inside) stops
  have clear : ∃ front last, copy.shape.opening = front ++ [last] ∧
      clearsPointers (front ++ [last]) = true ∧ Text.isWordCharacter last = false := by
    cases copy.shape with
    | bare => exact ⟨"  strncpy".toList, '(', rfl, by decide, by decide⟩
    | cast => exact ⟨"  strncpy((char *".toList, ')', rfl, by decide, by decide⟩
    | enclosed => exact ⟨"  strncpy((char *)".toList, '(', rfl, by decide, by decide⟩
  obtain ⟨front, last, opening, clear, outside⟩ := clear
  rw [plain?, target, opening, List.append_assoc, List.singleton_append,
    plainFrom?_append clear, outside]
  exact plainFrom?_of_plainHere? here

theorem ofText_target : ofText copy.target = Addend.literal copy.offset := by
  rw [ofText, find?, copy.scaled?_target, copy.plain?_target]
  exact ofOccurrence_of_spells copy.spells copy.negative _ 1

/-! ## The line -/

theorem not_mem_size {character : Char} (visible : Text.isBlank character = false)
    (no_sign : character ≠ '-') (foreign : IntLiteral.isBodyCharacter character.toLower = false) :
    character ∉ copy.size :=
  IntLiteral.not_mem_of_read? copy.reads visible no_sign foreign

theorem splitOn_line : copy.line.splitOn ',' =
    [copy.target, ' ' :: copy.quoted, ' ' :: (copy.size ++ [')', ';'])] := by
  have opening : ∀ shape : DestinationShape, ',' ∉ shape.opening ∧ ',' ∉ shape.closing := by
    intro shape
    cases shape <;> decide
  have target : ',' ∉ copy.target := by
    simp [StringCopy.target, copy.not_mem_sum (show isSumCharacter ',' = false by decide),
      opening copy.shape]
  have size : ',' ∉ copy.size := copy.not_mem_size (by decide) (by decide) (by decide)
  have pieces := List.splitOn_intercalate ','
    (show ∀ piece ∈ [copy.target, ' ' :: copy.quoted, ' ' :: (copy.size ++ [')', ';'])],
        ',' ∉ piece by
      simp [target, size, quoted, copy.whole]) (by simp)
  rw [← pieces]
  simp [line, List.intercalate]

/-- The parts that are read off the line. -/
def parts : Copy where
  target := Addend.literal copy.offset
  source := String.ofList copy.quoted
  sizeText := String.ofList (Text.trim copy.size)

theorem read_line : Copy.read copy.line = .ok copy.parts := by
  have source : Text.trim (' ' :: copy.quoted) = copy.quoted := by
    have starts : Text.trimStart (' ' :: copy.quoted) = copy.quoted :=
      Text.trimStart_append_cons [' '] (show Text.isBlank '"' = false by decide) _
    rw [Text.trim, starts]
    exact Text.trimEnd_concat ('"' :: copy.content) (show Text.isBlank '"' = false by decide)
  have unclosed : ')' ∉ copy.size := copy.not_mem_size (by decide) (by decide) (by decide)
  simp only [Copy.read, copy.splitOn_line, copy.ofText_target, source,
    Copy.sizeArgument_append unclosed]
  rfl

theorem size?_parts : copy.parts.size? = some copy.bytes := by
  rw [Copy.size?, parts, String.toList_ofList, IntLiteral.read?_trim, copy.reads, Option.bind_some,
    if_pos copy.positive]
  rfl

theorem member_parts (stem : String) : copy.parts.member stem = copy.member stem := by
  unfold Copy.member
  rw [copy.size?_parts]
  simp only [Member.atAddend, Member.withDetail, parts, Context.memberName, Addend.suffix,
    Addend.offset, StringCopy.member]

/-- The line copies a string unless it looks like a loop. -/
theorem ofLine_line_iff :
    LineKind.ofLine copy.line = .copy ↔ LineKind.isLoop copy.line = false := by
  have named : LineKind.isCopy copy.line = true := by
    have opening : ∀ shape : DestinationShape,
        LineKind.isCopy shape.opening = true := by
      intro shape
      cases shape <;> decide
    simp only [line, target, List.append_assoc]
    exact Text.occursIn_append_of_left _ (opening copy.shape)
  have mentioned : LineKind.mentionsPointer copy.line = true := by
    simp only [line, target, sum, sumText, List.append_assoc]
    exact LineKind.mentionsPointer_append _
      (LineKind.mentionsPointer_of_isPointerName copy.isPointerName_pointer _)
  simp only [LineKind.ofLine, named, mentioned]
  cases LineKind.isLoop copy.line <;> simp

/-! ## The member -/

/-- A step that places the string and nothing else, and perhaps announces its terminator. -/
structure Places (context : Context) (next : Option SourceLine) (step : EmissionStep) : Prop where
  emission : step.emission = .members ((context.reconcile copy.offset).items ++
    [.member (copy.member context.memberStem)])
  declared : Item.ordinary step.emission.items = [copy.member context.memberStem]
  cursor : step.context.tally.cursor = ⟨copy.offset, copy.bytes⟩
  context : step.context =
    { context.moveTo copy.offset copy.bytes with
      suppressesNext := (context.heuristics.skipTerminators &&
        next.any fun following => LineKind.isZeroWrite following.characters) ||
          context.suppressesNext }

/-- The string is placed whether or not its terminator follows. -/
theorem places_perform (context : Context) (line : SourceLine) (next : Option SourceLine) :
    copy.Places context next (context.perform line (copy.parts.reading context next)) := by
  have matters : (copy.member context.memberStem).ignored = false := rfl
  have silent : Item.ordinary (context.reconcile copy.offset).items = [] :=
    Tally.ordinary_reconcile ..
  have declared : Item.ordinary ((context.reconcile copy.offset).items ++
      [.member (copy.member context.memberStem)]) = [copy.member context.memberStem] := by
    rw [Item.ordinary_append, silent, Item.ordinary_member matters, List.nil_append]
  simp only [Copy.reading, copy.member_parts]
  split
  · next announced => exact ⟨rfl, declared, rfl, by rw [announced]; rfl⟩
  · next unannounced =>
    have placed : (context.placeAll [copy.member context.memberStem]).items =
        (context.reconcile copy.offset).items ++ [.member (copy.member context.memberStem)] :=
      List.append_nil _
    refine ⟨congrArg Emission.members placed, ?_, rfl, ?_⟩
    · exact (congrArg Item.ordinary placed).trans declared
    · rw [Bool.not_eq_true] at unannounced
      rw [unannounced]
      rfl

/-- Whatever text a printed copy holds between its quotes, the line is taken as a copy if it is not
taken as a loop, and declares one string, at the addend of the destination in bytes and of the size
that is written.  The line behind it is announced as the terminator exactly if the heuristic is on
and it is a zero write. -/
theorem places_line (context : Context) (index : Nat) (next : Option SourceLine) :
    (LineKind.ofLine copy.line = .copy ↔ LineKind.isLoop copy.line = false) ∧
      copy.offset.toInt = (if copy.negative then -(copy.magnitude : Int)
        else copy.magnitude).bmod 0x10000000000000000 ∧
      (copy.bytes.toNat : Int) = copy.literal.value.toInt ∧
      ∃ step, context.emit .copy { index, text := String.ofList copy.line } next = some step ∧
        copy.Places context next step := by
  have characters : (SourceLine.mk index (String.ofList copy.line)).characters = copy.line :=
    String.toList_ofList
  have place : displacement copy.negative copy.magnitude 1 =
      if copy.negative then -(copy.magnitude : Int) else copy.magnitude := by
    simp [displacement]
  have bytes : (copy.bytes.toNat : Int) = copy.literal.value.toInt := by
    have lower := copy.positive
    have upper := copy.literal.value.toInt_lt
    rw [StringCopy.bytes, Size.toNat_clamp, Size.maximum]
    omega
  refine ⟨copy.ofLine_line_iff, ?_, bytes, ?_⟩
  · rw [offset, place]
    exact Offset.toInt_wrap _
  · refine ⟨_, ?_, copy.places_perform context ⟨index, String.ofList copy.line⟩ next⟩
    simp only [Context.emit, Context.read, characters, copy.read_line, Option.map_some,
      List.nil_append]

/-- A text that imitates the end of the call, a write to another place and a second string. -/
theorem places_line_imitating :
    let text :=
      "  strncpy((char *)(v2 - 0x10), \"a2 + 64); *(_DWORD *)(a2 + 8) = 0; strncpy(a3\", 8i64);"
    let next : SourceLine := ⟨1, "  *(_BYTE *)(v2 - 9) = 0;"⟩
    LineKind.ofLine text.toList = .copy ∧
      ∃ step member, (Context.initial {} "Unknown").emit .copy ⟨0, text⟩ (some next) = some step ∧
        Item.ordinary step.emission.items = [member] ∧ member.offset.toInt = -16 ∧
        member.size.toNat = 8 ∧ step.context.suppressesNext = true := by
  intro text next
  let copy : StringCopy :=
    { shape := .enclosed
      pointer := ['v', '2']
      tracked := by decide
      negative := true
      token := "0x10".toList
      magnitude := 16
      spells := ⟨{ hexadecimal := true, digits := ['1', '0'] }, rfl, rfl, rfl, by decide, by decide,
        by decide⟩
      content := "a2 + 64); *(_DWORD *)(a2 + 8) = 0; strncpy(a3".toList
      whole := by decide
      size := "8i64".toList
      literal := ⟨8, true⟩
      reads := by decide
      positive := by decide }
  have same : String.ofList copy.line = text := by decide +kernel
  obtain ⟨kind, place, bytes, step, emitted, places⟩ :=
    copy.places_line (Context.initial {} "Unknown") 0 (some next)
  rw [same] at emitted
  have flat : LineKind.isLoop copy.line = false := by decide +kernel
  have announced : LineKind.isZeroWrite next.characters = true := by decide +kernel
  refine ⟨?_, step, _, emitted, places.declared, place.trans (by decide), ?_, ?_⟩
  · rw [← same, String.toList_ofList]
    exact kind.mpr flat
  · exact Int.ofNat.inj bytes
  · rw [places.context, Option.any_some, announced]
    rfl

end StringCopy

end LayoutRecovery
