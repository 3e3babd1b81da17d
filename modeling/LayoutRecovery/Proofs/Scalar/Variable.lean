import LayoutRecovery.Proofs.Addend.Remainder
import LayoutRecovery.Proofs.Addend.Separator
import LayoutRecovery.Proofs.Addend.Shape
import LayoutRecovery.Proofs.Placement.Aim

/-!
# Numbered variables

A line is taken as a write through any variable that is `a` or `v` with a number behind it, however
many digits the number has.  An addend is read behind a variable only if the number has one or two
digits: what is written through a variable of more digits is placed at the start of the structure.
-/

namespace LayoutRecovery

namespace Addend

/-! ## Variables of many digits -/

theorem isPointerName_cons {letter : Char} (lettered : letter = 'a' ∨ letter = 'v')
    {digits : List Char} (numbered : digits ≠ [])
    (decimal : ∀ character ∈ digits, character.isDigit = true) (short : digits.length ≤ 2) :
    isPointerName (letter :: digits) = true := by
  obtain _ | ⟨first, _ | ⟨second, _ | ⟨third, more⟩⟩⟩ := digits
  · exact absurd rfl numbered
  · simp [isPointerName, lettered, decimal first (by simp)]
  · simp [isPointerName, lettered, decimal first (by simp), decimal second (by simp)]
  · exact absurd short (by simp)

/-- No addend stands behind a name that goes on with a third digit. -/
theorem plainHere?_of_digits (letter : Char) {digits : List Char}
    (decimal : ∀ character ∈ digits, character.isDigit = true) (long : 2 < digits.length)
    (rest : List Char) : plainHere? (letter :: (digits ++ rest)) = none := by
  obtain _ | ⟨first, _ | ⟨second, _ | ⟨third, more⟩⟩⟩ := digits
  · cases long
  · exact absurd long (by simp)
  · exact absurd long (by simp)
  have continued := Text.isDecimalDigit_of_isDigit (decimal second (by simp))
  have digit := decimal third (by simp)
  have visible :=
    Text.isBlank_of_isIdentifierCharacter (Text.isIdentifierCharacter_of_isDigit digit)
  have unsigned : ¬ (third = '+' ∨ third = '-') := by
    rintro (rfl | rfl) <;> exact absurd digit (by decide)
  have silent : signedToken? (third :: (more ++ rest)) = none := by
    rw [signedToken?, Text.trimStart_cons _ visible]
    exact if_neg unsigned
  simp only [plainHere?, pointer?, List.cons_append, continued, if_true]
  split
  · exact silent
  · rfl

/-- Inside a word no plain addend starts. -/
theorem plainFrom?_word {word : List Char}
    (whole : ∀ character ∈ word, Text.isWordCharacter character = true) (rest : List Char) :
    plainFrom? true (word ++ rest) = plainFrom? true rest := by
  induction word with
  | nil => rfl
  | cons first word ih =>
      rw [List.cons_append, plainFrom?, whole first (by simp), if_pos rfl, Option.none_or]
      exact ih fun character inside => whole character (by simp [inside])

end Addend

/-- A write through a variable that is `a` or `v` with a number behind it. -/
structure NumberedWrite where
  /-- The type in the cast. -/
  type : List Char
  /-- How much the type takes. -/
  width : CastWidth
  /-- The type is one of known width. -/
  listed : (type, width) ∈ CastWidth.names
  /-- The letter of the variable. -/
  letter : Char
  /-- The letter is one of pointers. -/
  lettered : letter = 'a' ∨ letter = 'v'
  /-- The number of the variable. -/
  digits : List Char
  /-- The number has a digit. -/
  numbered : digits ≠ []
  /-- The number is decimal. -/
  decimal : ∀ character ∈ digits, character.isDigit = true
  /-- The token of the addend. -/
  token : List Char
  /-- The number that the token writes. -/
  magnitude : Nat
  /-- The token spells the number. -/
  spells : IntLiteral.Spells token magnitude
  /-- The number is an offset. -/
  small : (magnitude : Int) ≤ Offset.maximum
  /-- The value that is written. -/
  value : List Char

namespace NumberedWrite

open Addend

variable (write : NumberedWrite)

/-- The name of the variable. -/
def name : List Char :=
  write.letter :: write.digits

/-- The left side of the assignment. -/
def target : List Char :=
  "  *".toList ++ (castText write.type ++ plainText write.name false write.token)

/-- The whole line. -/
def line : List Char :=
  write.target ++ " = ".toList ++ (write.value ++ [';'])

/-- Where the write is placed. -/
def start : Int :=
  if write.digits.length ≤ 2 then write.magnitude else 0

/-! ## The addend -/

theorem identifier_of_mem_name {character : Char} (inside : character ∈ write.name) :
    Text.isIdentifierCharacter character = true := by
  rcases List.mem_cons.mp inside with rfl | digit
  · rcases write.lettered with letter | letter <;> rw [letter] <;> decide
  · exact Text.isIdentifierCharacter_of_isDigit (write.decimal character digit)

theorem clearsPointers_front :
    clearsPointers ("  *".toList ++ castText write.type ++ ['(']) = true := by
  have clear : ∀ entry ∈ CastWidth.names,
      clearsPointers ("  *".toList ++ castText entry.1 ++ ['(']) = true := by decide
  exact clear _ write.listed

theorem find?_target_of_short (short : write.digits.length ≤ 2) :
    find? write.target = some (literal (Offset.wrap write.magnitude)) := by
  have named : isPointerName write.name = true :=
    isPointerName_cons write.lettered write.numbered write.decimal short
  have found := find?_plainText (isTypeName_of_mem write.listed) named false write.spells
    (show '(' ∉ "  *".toList by decide) write.clearsPointers_front
  simpa [target, displacement] using found

theorem not_mem_name {character : Char}
    (foreign : Text.isIdentifierCharacter character = false) : character ∉ write.name :=
  fun inside => Bool.noConfusion (foreign.symm.trans (write.identifier_of_mem_name inside))

theorem plain?_target_of_long (long : 2 < write.digits.length) : plain? write.target = none := by
  have shape : write.target = ("  *".toList ++ castText write.type) ++
      '(' :: (write.letter :: (write.digits ++ ([' ', '+'] ++ ' ' :: (write.token ++ [')'])))) := by
    simp [target, plainText, sumText, signText, name]
  -- none stands at the variable, none can start at a digit of it, and behind it no sign follows
  have here := plainHere?_of_digits write.letter write.decimal long
    ([' ', '+'] ++ ' ' :: (write.token ++ [')']))
  have letter : Text.isWordCharacter write.letter = true :=
    Text.isWordCharacter_of_isIdentifierCharacter
      (write.identifier_of_mem_name (List.mem_cons_self ..))
  have word : ∀ character ∈ write.digits, Text.isWordCharacter character = true :=
    fun character inside => Text.isWordCharacter_of_isIdentifierCharacter
      (write.identifier_of_mem_name (List.mem_cons_of_mem _ inside))
  have unsigned : ∀ negative, sign negative ∉ write.token ++ [')'] := by
    intro negative inside
    rcases List.mem_append.mp inside with token | closing
    · have identifier := write.spells.identifier_of_mem token
      cases negative <;> exact absurd identifier (by decide)
    · cases negative <;> exact absurd closing (by decide)
  rw [shape, plain?, plainFrom?_append write.clearsPointers_front, plainFrom?, here, ite_self,
    Option.none_or, letter, plainFrom?_word word, plainFrom?_append (by decide),
    plainFrom?_of_unsigned unsigned]

theorem find?_target_of_long (long : 2 < write.digits.length) : find? write.target = none := by
  have unscaled : scaled? write.target = none := by
    refine scaled?_castText (isTypeName_of_mem write.listed) (by decide)
      (not_mem_sumText (write.not_mem_name (by decide)) false write.spells) ?_
    rcases write.lettered with letter | letter
    all_goals
      rw [sumText, name, letter]
      exact Text.trimStart_cons _ (by decide)
  exact find?_eq_none_iff.mpr ⟨unscaled, write.plain?_target_of_long long⟩

theorem offset_target : (Addend.ofText write.target).offset.toInt = write.start := by
  unfold start Addend.ofText
  split
  · next short =>
    have lower : Offset.minimum ≤ (write.magnitude : Int) := by
      have least : Offset.minimum ≤ 0 := by decide
      omega
    rw [write.find?_target_of_short short]
    exact Offset.toInt_wrap_of_mem lower write.small
  · next long =>
    rw [write.find?_target_of_long (by omega)]
    rfl

/-! ## The line -/

theorem not_mem_target : '=' ∉ write.target := by
  have cast : ∀ entry ∈ CastWidth.names, '=' ∉ "  *".toList ++ castText entry.1 := by decide
  have token : '=' ∉ write.token := fun inside =>
    absurd (write.spells.identifier_of_mem inside) (by decide)
  have before := cast _ write.listed
  have name := write.not_mem_name (show Text.isIdentifierCharacter '=' = false by decide)
  rw [List.mem_append, not_or] at before
  simp [target, plainText, sumText, signText, before.2, name, token]

theorem cut_line :
    Text.cut " = ".toList write.line = some (write.target, write.value ++ [';']) := by
  rw [line]
  exact Text.cut_equals _ write.not_mem_target

theorem mentionsPointer_line : LineKind.mentionsPointer write.line = true := by
  obtain ⟨digit, more, digits⟩ := List.exists_cons_of_ne_nil write.numbered
  have decimal := write.decimal digit (by simp [digits])
  have shape : write.line = ("  *".toList ++ (castText write.type ++ ['('])) ++
      write.letter :: digit :: (more ++ (signText false ++ (write.token ++ [')'] ++
        (" = ".toList ++ (write.value ++ [';']))))) := by
    simp [line, target, plainText, sumText, name, digits]
  rw [shape]
  refine LineKind.mentionsPointer_append _ ?_
  rcases write.lettered with letter | letter <;> simp [LineKind.mentionsPointer, letter, decimal]

theorem isAssignment_line : LineKind.isAssignment write.line = true := by
  have opening : Text.occursIn "*(".toList write.line = true := by
    refine Text.occursIn_iff.mpr ⟨"  ".toList, write.type ++ " *)".toList ++
      plainText write.name false write.token ++ " = ".toList ++ (write.value ++ [';']), ?_⟩
    simp [line, target, castText]
  have closing : Text.occursIn "*)".toList write.line = true := by
    refine Text.occursIn_iff.mpr ⟨"  *(".toList ++ write.type ++ [' '],
      plainText write.name false write.token ++ " = ".toList ++ (write.value ++ [';']), ?_⟩
    simp [line, target, castText]
  have equals : Text.occursIn " = ".toList write.line = true :=
    Text.occursIn_iff.mpr ⟨write.target, write.value ++ [';'], rfl⟩
  rw [LineKind.isAssignment, opening, closing, equals]
  rfl

/-- The line is taken as a write, however many digits the variable has. -/
theorem ofLine_line_eq_write_iff :
    LineKind.ofLine write.line = .write ↔
      LineKind.isLoop write.line = false ∧ LineKind.isCopy write.line = false := by
  simp only [LineKind.ofLine, write.mentionsPointer_line, write.isAssignment_line]
  cases LineKind.isLoop write.line <;> cases LineKind.isCopy write.line <;> simp

theorem read?_line :
    Assignment.read? write.line =
      if Text.trim write.value = [] then none
      else some
        { target := Addend.ofText write.target
          width := CastWidth.detect write.target
          value := String.ofList (Text.trim write.value) } := by
  rw [Assignment.read?, write.cut_line, Option.bind_some]
  simp only [Text.beforeLast_append]

/-- A write through a numbered variable is taken as one however many digits the number has, and if
a value stands in it, it declares a member.  With one or two digits the first member is at the
addend, with more it is at the start of the structure. -/
theorem placed_of_line (context : Context) (index : Nat) (next : Option SourceLine) :
    (LineKind.ofLine write.line = .write ↔
      LineKind.isLoop write.line = false ∧ LineKind.isCopy write.line = false) ∧
    ∃ step, context.emit .write { index, text := String.ofList write.line } next = some step ∧
      if Text.trim write.value = [] then step.emission = .unparsed
      else ∃ items leading rest, step.emission = .members items ∧
        Item.ordinary items = leading :: rest ∧ leading.offset.toInt = write.start := by
  refine ⟨write.ofLine_line_eq_write_iff, ?_⟩
  have characters : (SourceLine.mk index (String.ofList write.line)).characters = write.line :=
    String.toList_ofList
  have parts := write.read?_line
  split
  · next empty =>
    rw [if_pos empty] at parts
    have reads : context.read .write ⟨index, String.ofList write.line⟩ next =
        some (.unparsed, []) := by
      simp only [Context.read, characters, parts]
    exact ⟨_, by rw [Context.emit, reads, Option.map_some], rfl⟩
  · next filled =>
    rw [if_neg filled, ← characters] at parts
    obtain ⟨step, items, emitted, spoken, -⟩ := context.exists_emit_write parts next
    have aims : SourceLine.Aims ⟨index, String.ofList write.line⟩ .write write.target :=
      .write (by rw [characters, write.cut_line])
    obtain ⟨leading, rest, ordinary, start⟩ := aims.exists_of_emit emitted spoken
    exact ⟨step, emitted, items, leading, rest, spoken, ordinary,
      (congrArg Offset.toInt start).trans write.offset_target⟩

/-- What is written through `v123` is placed at the start, at no addend. -/
theorem placed_of_line_three_digits :
    let write : NumberedWrite :=
      { type := "_DWORD".toList
        width := .bits32
        listed := by decide
        letter := 'v'
        lettered := .inr rfl
        digits := ['1', '2', '3']
        numbered := by decide
        decimal := List.all_eq_true.mp (by decide)
        token := ['8']
        magnitude := 8
        spells := ⟨{ hexadecimal := false, digits := ['8'] }, rfl, rfl, rfl, by decide, by decide,
          by decide⟩
        small := by decide
        value := ['5'] }
    LineKind.ofLine write.line = .write ∧
      ∃ step items leading rest,
        (Context.initial {} "Unknown").emit .write
          { index := 0, text := "  *(_DWORD *)(v123 + 8) = 5;" } none = some step ∧
        step.emission = .members items ∧ Item.ordinary items = leading :: rest ∧
        leading.offset.toInt = 0 := by
  intro write
  obtain ⟨taken, step, emitted, members⟩ :=
    write.placed_of_line (Context.initial {} "Unknown") 0 none
  have unlooped : LineKind.isLoop write.line = false := by decide +kernel
  have uncopied : LineKind.isCopy write.line = false := by decide +kernel
  have filled : Text.trim write.value ≠ [] := by decide
  rw [if_neg filled] at members
  obtain ⟨items, leading, rest, spoken, ordinary, start⟩ := members
  exact ⟨taken.mpr ⟨unlooped, uncopied⟩, step, items, leading, rest, emitted, spoken, ordinary,
    start⟩

/-- The same addend puts a member at 8 behind `a12`, and at 0 behind `a123` and `v100`, and all of
these lines are taken as writes. -/
theorem offset_lost_behind_three_digits :
    let starts := fun (text : String) =>
      ((Context.initial {} "Unknown").emit (LineKind.ofLine text.toList)
        { index := 0, text } none).map fun step =>
          (Item.ordinary step.emission.items).map fun member => member.offset.toInt
    LineKind.ofLine "  *(_DWORD *)(a12 + 8) = 5;".toList = .write ∧
      starts "  *(_DWORD *)(a12 + 8) = 5;" = some [8] ∧
      LineKind.ofLine "  *(_DWORD *)(a123 + 8) = 5;".toList = .write ∧
      starts "  *(_DWORD *)(a123 + 8) = 5;" = some [0] ∧
      LineKind.ofLine "  *(_DWORD *)(v100 + 8) = 5;".toList = .write ∧
      starts "  *(_DWORD *)(v100 + 8) = 5;" = some [0] := by
  decide +kernel

end NumberedWrite

end LayoutRecovery
