import LayoutRecovery.Proofs.Addend.Separator
import LayoutRecovery.Proofs.Addend.Shape
import LayoutRecovery.Proofs.Placement.Aim

/-!
# Scaled pointers as arguments

A pointer `(TYPE *)v1 + N` counts in elements where parentheses close around it, as on the left side
of an assignment or as the sole argument of a call.  Where a comma stands on one of its sides, as in
the destination of a string copy or among several arguments of a call, it is read as a plain addend,
and the same number counts bytes.
-/

namespace LayoutRecovery

/-- A tracked pointer behind a cast, with an addend. -/
structure ScaledPointer where
  /-- The type in the cast. -/
  type : List Char
  /-- How much the type takes. -/
  width : CastWidth
  /-- The type is one of known width. -/
  listed : (type, width) ∈ CastWidth.names
  /-- The name of the pointer. -/
  pointer : List Char
  /-- The pointer is tracked. -/
  tracked : pointer ∈ Addend.pointers
  /-- Whether the addend is subtracted. -/
  negative : Bool
  /-- The token of the addend. -/
  token : List Char
  /-- The number that the token writes. -/
  magnitude : Nat
  /-- The token spells the number. -/
  spells : IntLiteral.Spells token magnitude

namespace ScaledPointer

open Addend

variable (scaled : ScaledPointer)

/-- The sum of the pointer and the addend. -/
def sum : List Char :=
  sumText scaled.pointer scaled.negative scaled.token

/-- The sum behind the cast. -/
def text : List Char :=
  castText scaled.type ++ scaled.sum

/-- The sum behind the cast, in parentheses. -/
def enclosed : List Char :=
  '(' :: (scaled.text ++ [')'])

/-- The offset that the addend stands for if it counts in elements of some bytes. -/
def offset (bytes : Nat) : Offset :=
  Offset.wrap (displacement scaled.negative scaled.magnitude bytes)

/-- A line, taken as one of some kind, in which the pointer stands, with the bytes for which each of
its elements counts. -/
inductive Stands : LineKind → List Char → Nat → Prop
  /-- On the left side of an assignment. -/
  | target (value : List Char) :
      Stands .write ("  *".toList ++ scaled.enclosed ++ " = ".toList ++ value) scaled.width.bytes
  /-- As the sole argument of a call. -/
  | sole {callee : List Char} (flat : '(' ∉ callee) (rest : List Char) :
      Stands .call (callee ++ (scaled.enclosed ++ rest)) scaled.width.bytes
  /-- As the destination of a string copy. -/
  | destination {source size : List Char} (source_whole : ',' ∉ source) (size_whole : ',' ∉ size) :
      Stands .copy ("  strncpy(".toList ++ scaled.text ++ ',' :: (source ++ ',' :: size)) 1
  /-- As the first of several arguments of a call. -/
  | first {callee others : List Char} (flat : '(' ∉ callee) (silent : find? callee = none)
      (unscaled : scaled? others = none) :
      Stands .call (callee ++ '(' :: (scaled.text ++ ',' :: others)) 1
  /-- As a later argument of a call. -/
  | later {before after : List Char} (silent : find? before = none) (stops : Addend.Stops after)
      (unscaled : scaled? after = none) :
      Stands .call (before ++ ',' :: ' ' :: (scaled.text ++ after)) 1

/-! ## The addend of each place -/

theorem isPointerName_pointer : isPointerName scaled.pointer = true :=
  isPointerName_of_mem scaled.tracked

/-- The cast and the sum open no parenthesis but that of the cast. -/
theorem scaled?_text (rest : List Char) : scaled? (scaled.text ++ rest) = scaled? rest := by
  have typed := isTypeName_of_mem scaled.listed
  have flat : '(' ∉ scaled.type ++ [' ', '*', ')'] ++ scaled.sum := by
    simp [not_mem_of_isTypeName typed, sum,
      not_mem_sumText (not_mem_of_isPointerName scaled.isPointerName_pointer) scaled.negative
        scaled.spells]
  have shape : scaled.text ++ rest =
      '(' :: (scaled.type ++ [' ', '*', ')'] ++ scaled.sum ++ rest) := by
    simp [text, castText]
  rw [shape]
  exact scaled?_of_single (by simp) flat rest
    (by simp only [List.append_assoc]; exact trimStart_typeName typed _)

theorem plain?_text {front : List Char}
    (clear : clearsPointers (front ++ castText scaled.type) = true) {rest : List Char}
    (stops : Stops rest) :
    plain? (front ++ (scaled.text ++ rest)) =
      some { negative := scaled.negative, token := scaled.token, rest } := by
  have shape : front ++ (scaled.text ++ rest) =
      (front ++ '(' :: (scaled.type ++ [' ', '*'])) ++ ')' :: (scaled.sum ++ rest) := by
    simp [text, castText]
  have here := plainHere?_append scaled.isPointerName_pointer scaled.negative
    scaled.spells.ne_nil (fun _ inside => scaled.spells.identifier_of_mem inside) stops
  rw [shape, plain?, plainFrom?_append (by simpa [castText] using clear)]
  exact plainFrom?_of_plainHere? here

theorem find?_of_plain? {line rest : List Char} (unscaled : scaled? line = none)
    (plain : plain? line =
      some { negative := scaled.negative, token := scaled.token, rest }) :
    find? line = some (literal (scaled.offset 1)) := by
  rw [find?, unscaled, plain]
  exact congrArg some (ofOccurrence_of_spells scaled.spells scaled.negative rest 1)

theorem find?_enclosed {front : List Char} (flat : '(' ∉ front) (rest : List Char) :
    find? (front ++ (scaled.enclosed ++ rest)) =
      some (literal (scaled.offset scaled.width.bytes)) := by
  have shape : scaled.enclosed =
      scaledText scaled.type scaled.pointer scaled.negative scaled.token := by
    simp [enclosed, text, scaledText, sum]
  rw [shape]
  exact find?_scaledText scaled.listed scaled.isPointerName_pointer scaled.negative scaled.spells
    flat rest

theorem clearsPointers_castText : clearsPointers (castText scaled.type) = true := by
  have all : ∀ entry ∈ CastWidth.names, clearsPointers (castText entry.1) = true := by decide
  exact all _ scaled.listed

/-- A parenthesis that opens in front of the cast and is not closed behind the sum does not
count. -/
theorem scaled?_opened {callee : List Char} (flat : '(' ∉ callee) :
    scaled? (callee ++ '(' :: scaled.text) = none := by
  have nothing : Stops [] := fun first starts => by cases starts
  have here := scaledHere?_castText (isTypeName_of_mem scaled.listed)
    scaled.isPointerName_pointer scaled.negative scaled.spells.ne_nil
    (fun _ inside => scaled.spells.identifier_of_mem inside) nothing
  have inner := scaled.scaled?_text []
  rw [List.append_nil] at here inner
  rw [scaled?_append flat, scaled?, text, sum, here, ← sum, ← text, inner]
  rfl

theorem find?_opened {callee : List Char} (flat : '(' ∉ callee) (silent : find? callee = none) :
    find? (callee ++ '(' :: scaled.text) = some (literal (scaled.offset 1)) := by
  have plain := scaled.plain?_text
    (show clearsPointers ([] ++ castText scaled.type) = true from scaled.clearsPointers_castText)
    (show Stops [] from fun first starts => by cases starts)
  rw [List.nil_append, List.append_nil] at plain
  refine scaled.find?_of_plain? (scaled.scaled?_opened flat)
    (show plain? _ =
      some { negative := scaled.negative, token := scaled.token, rest := [] } from ?_)
  rw [plain?, plainFrom?_append_stop callee scaled.text breaks_parenthesis, ← plain?,
    (find?_eq_none_iff.mp silent).2, plain]
  rfl

theorem not_mem_text {character : Char} (foreign : isSumCharacter character = false)
    (uncast : ∀ entry ∈ CastWidth.names, character ∉ castText entry.1) :
    character ∉ scaled.text := by
  intro inside
  rcases List.mem_append.mp inside with cast | sum
  · exact uncast _ scaled.listed cast
  · exact not_mem_sumText_of_foreign scaled.tracked scaled.negative scaled.spells foreign sum

theorem Stands.exists_aims {kind : LineKind} {line : List Char} {bytes : Nat}
    (stands : scaled.Stands kind line bytes) (index : Nat) :
    ∃ part, SourceLine.Aims { index, text := String.ofList line } kind part ∧
      find? part = some (literal (scaled.offset bytes)) := by
  have characters : ∀ written : List Char,
      (SourceLine.mk index (String.ofList written)).characters = written :=
    fun _ => String.toList_ofList
  cases stands with
  | target value =>
      have unequal : '=' ∉ "  *".toList ++ scaled.enclosed := by
        simp [enclosed, scaled.not_mem_text (show isSumCharacter '=' = false by decide) (by decide)]
      have found := scaled.find?_enclosed (show '(' ∉ "  *".toList by decide) []
      rw [List.append_nil] at found
      exact ⟨_, .write (by rw [characters, Text.cut_equals value unequal]), found⟩
  | sole flat rest =>
      refine ⟨_, .call, ?_⟩
      rw [characters]
      exact scaled.find?_enclosed flat rest
  | @destination source size source_whole size_whole =>
      have whole : ',' ∉ "  strncpy(".toList ++ scaled.text := by
        simp [scaled.not_mem_text (show isSumCharacter ',' = false by decide) (by decide)]
      have pieces := List.splitOn_intercalate ','
        (show ∀ piece ∈ ["  strncpy(".toList ++ scaled.text, source, size], ',' ∉ piece by
          simpa [source_whole, size_whole] using whole) (by simp)
      refine ⟨"  strncpy(".toList ++ scaled.text, @SourceLine.Aims.copy _ _ source size ?_, ?_⟩
      · rw [characters, ← pieces]
        simp [List.intercalate]
      · exact scaled.find?_opened (show '(' ∉ "  strncpy".toList by decide) (by decide)
  | @first callee others flat silent unscaled =>
      refine ⟨_, .call, ?_⟩
      rw [characters, ← List.cons_append, ← List.append_assoc]
      exact find?_append_of_some (scaled.find?_opened flat silent) separates_comma unscaled
  | @later before after silent stops unscaled =>
      refine ⟨_, .call, ?_⟩
      have blank : clearsPointers ([' '] ++ castText scaled.type) = true := by
        have all : ∀ entry ∈ CastWidth.names,
            clearsPointers ([' '] ++ castText entry.1) = true := by decide
        exact all _ scaled.listed
      have none_scaled : scaled? ([' '] ++ (scaled.text ++ after)) = none := by
        rw [scaled?_append (by decide), scaled.scaled?_text, unscaled]
      rw [characters, find?_append_of_none silent separates_comma]
      exact scaled.find?_of_plain? none_scaled (scaled.plain?_text blank stops)

/-! ## Members -/

/-- Two ways to count the elements come to the same offset if they differ by multiples of
`2 ^ 64`. -/
theorem offset_eq_iff (left right : Nat) :
    scaled.offset left = scaled.offset right ↔
      (0x10000000000000000 : Int) ∣ scaled.magnitude * (left - right) := by
  have words : scaled.offset left = scaled.offset right ↔
      (displacement scaled.negative scaled.magnitude left).bmod 0x10000000000000000 =
        (displacement scaled.negative scaled.magnitude right).bmod 0x10000000000000000 := by
    rw [← Offset.toInt_wrap, ← Offset.toInt_wrap]
    exact ⟨congrArg Offset.toInt, Offset.toInt_injective⟩
  rw [words, Int.bmod_eq_bmod_iff_bmod_sub_eq_zero, ← Int.dvd_iff_bmod_eq_zero, Int.mul_sub]
  cases scaled.negative with
  | false => rfl
  | true =>
      have opposite : displacement true scaled.magnitude left -
          displacement true scaled.magnitude right =
            -((scaled.magnitude : Int) * left - scaled.magnitude * right) := by
        simp only [displacement, if_true]
        omega
      rw [opposite, Int.dvd_neg]
      rfl

/-- Wherever a scaled pointer stands, the line puts its first member at the offset that the addend
stands for, in elements of the width on the left side of an assignment and as a sole argument, but
in bytes as the destination of a string copy and among several arguments.  A string copy always
declares its member.  The place is that of an assignment exactly if the two ways to count agree
modulo `2 ^ 64`. -/
theorem placed_of_stands {kind : LineKind} {line : List Char} {bytes : Nat}
    (stands : scaled.Stands kind line bytes) (context : Context) (index : Nat)
    (next : Option SourceLine) :
    ∃ step, context.emit kind { index, text := String.ofList line } next = some step ∧
      (kind = .copy → ∃ items, step.emission = .members items) ∧
      ∀ items, step.emission = .members items →
        ∃ leading rest, Item.ordinary items = leading :: rest ∧
          leading.offset = scaled.offset bytes ∧
          leading.offset.toInt =
            (displacement scaled.negative scaled.magnitude bytes).bmod 0x10000000000000000 ∧
          (leading.offset = scaled.offset scaled.width.bytes ↔
            (0x10000000000000000 : Int) ∣ scaled.magnitude * (bytes - scaled.width.bytes)) := by
  obtain ⟨part, aims, found⟩ := stands.exists_aims scaled index
  obtain ⟨step, emitted, copies⟩ := aims.exists_emit context next
  refine ⟨step, emitted, copies, fun items spoken => ?_⟩
  obtain ⟨leading, rest, ordinary, start⟩ := aims.exists_of_emit emitted spoken
  have place : leading.offset = scaled.offset bytes := by
    rw [start, ofText, found]
    rfl
  refine ⟨leading, rest, ordinary, place, ?_, ?_⟩
  · rw [place]
    exact Offset.toInt_wrap _
  · rw [place]
    exact scaled.offset_eq_iff bytes scaled.width.bytes

/-- The addend of a string copy's destination counts bytes. -/
theorem placed_of_stands_destination :
    let scaled : ScaledPointer :=
      { type := "_QWORD".toList
        width := .bits64
        listed := by decide
        pointer := ['a', '1']
        tracked := by decide
        negative := true
        token := ['2']
        magnitude := 2
        spells := ⟨{ hexadecimal := false, digits := ['2'] }, rfl, rfl, rfl, by decide, by decide,
          by decide⟩ }
    let line := "  strncpy((_QWORD *)a1 - 2, \"abc\", 8);".toList
    scaled.Stands .copy line 1 ∧
      ∃ step items leading rest,
        (Context.initial {} "Unknown").emit .copy { index := 0, text := String.ofList line } none =
          some step ∧
        step.emission = .members items ∧ Item.ordinary items = leading :: rest ∧
        leading.offset.toInt = -2 ∧ leading.offset ≠ scaled.offset scaled.width.bytes := by
  intro scaled line
  have stands : scaled.Stands .copy line 1 :=
    .destination (show ',' ∉ " \"abc\"".toList by decide) (show ',' ∉ " 8);".toList by decide)
  obtain ⟨step, emitted, copies, members⟩ :=
    scaled.placed_of_stands stands (Context.initial {} "Unknown") 0 none
  obtain ⟨items, spoken⟩ := copies rfl
  obtain ⟨leading, rest, ordinary, -, start, agrees⟩ := members items spoken
  exact ⟨stands, step, items, leading, rest, emitted, spoken, ordinary, start.trans (by decide),
    fun same => absurd (agrees.mp same) (by decide)⟩

/-- The same scaled pointer puts a member at 12 on the left side of an assignment, and at 3 as the
destination of a string copy and as one of two arguments of a call. -/
theorem copy_and_call_unlike_write :
    let starts := fun (kind : LineKind) (text : String) =>
      ((Context.initial {} "Unknown").emit kind { index := 0, text } none).map fun step =>
        (Item.ordinary step.emission.items).map fun member => member.offset.toInt
    LineKind.ofLine "  *((_DWORD *)v1 + 3) = 5;".toList = .write ∧
      starts .write "  *((_DWORD *)v1 + 3) = 5;" = some [12] ∧
      LineKind.ofLine "  strncpy((_DWORD *)v1 + 3, \"abc\", 0x10ui64);".toList = .copy ∧
      starts .copy "  strncpy((_DWORD *)v1 + 3, \"abc\", 0x10ui64);" = some [3] ∧
      LineKind.ofLine "  sub_1((_DWORD *)v1 + 3, 3);".toList = .call ∧
      starts .call "  sub_1((_DWORD *)v1 + 3, 3);" = some [3] := by
  decide +kernel

end ScaledPointer

end LayoutRecovery
