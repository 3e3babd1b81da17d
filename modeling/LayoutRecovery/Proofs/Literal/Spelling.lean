import LayoutRecovery.Literal.Integer
import LayoutRecovery.Proofs.Text.Occurrence
import LayoutRecovery.Text.WordCharacter

/-!
# Spellings of integer literals

The body of an integer literal is a row of digits, after `0x` a hexadecimal one, with at most one
width suffix behind it.  Reading takes the suffix off first.  No suffix starts with a digit, so the
suffix that is found lies behind all digits and is the whole rest of the body.
-/

namespace LayoutRecovery

namespace Numeral

theorem isSome_digitValue?_of_foldlM {base start total : Nat} {row : List Char}
    (folded : row.foldlM (fun value character =>
      (digitValue? base character).map fun digit => value * base + digit) start = some total)
    {character : Char} (inside : character ∈ row) :
    (digitValue? base character).isSome = true := by
  induction row generalizing start with
  | nil => cases inside
  | cons first rest ih =>
      cases digit : digitValue? base first with
      | none => simp [digit] at folded
      | some amount =>
          rcases List.mem_cons.mp inside with rfl | later
          · rw [digit]
            rfl
          · simp only [List.foldlM_cons, digit, Option.map_some, Option.bind_eq_bind,
              Option.bind_some] at folded
            exact ih folded later

theorem isSome_digitValue?_of_read? {base value : Nat} {digits : List Char}
    (found : read? base digits = some value) {character : Char} (inside : character ∈ digits) :
    (digitValue? base character).isSome = true := by
  cases digits with
  | nil => cases inside
  | cons first rest => exact isSome_digitValue?_of_foldlM found inside

theorem isSome_digitValue?_sixteen {base : Nat} (small : base ≤ 16) {character : Char}
    (digit : (digitValue? base character).isSome = true) :
    (digitValue? 16 character).isSome = true := by
  obtain ⟨value, found⟩ := Option.isSome_iff_exists.mp digit
  obtain ⟨raw, bound⟩ := Option.filter_eq_some_iff.mp found
  refine Option.isSome_iff_exists.mpr ⟨value, Option.filter_eq_some_iff.mpr ⟨raw, ?_⟩⟩
  simp only [decide_eq_true_eq] at bound ⊢
  omega

theorem readWord?_eq_some_iff {base : Nat} {digits : List Char} {word : UInt64} :
    readWord? base digits = some word ↔ read? base digits = some word.toNat := by
  unfold readWord?
  constructor
  · intro found
    obtain ⟨value, read, fits⟩ := Option.bind_eq_some_iff.mp found
    split at fits
    · rw [read, ← Option.some.inj fits, UInt64.toNat_ofNatLT]
    · cases fits
  · intro read
    have fits : word.toNat < UInt64.size := word.toNat_lt
    rw [read, Option.bind_some, dif_pos fits, UInt64.ofNatLT_toNat]

end Numeral

namespace IntLiteral

/-- How the body of a literal is spelled, in lower case. -/
structure Spelling where
  /-- Whether it is hexadecimal, after `0x`. -/
  hexadecimal : Bool
  /-- Whether a plus sign stands before the digits. -/
  plus : Bool := false
  /-- The digits, the most significant one first. -/
  digits : List Char
  /-- The width suffix, empty for none. -/
  suffix : String := ""

namespace Spelling

/-- The base of the digits. -/
def base (spelling : Spelling) : Nat :=
  if spelling.hexadecimal then 16 else 10

/-- The body without the suffix. -/
def core (spelling : Spelling) : List Char :=
  (if spelling.hexadecimal then ['0', 'x'] else []) ++
    ((if spelling.plus then ['+'] else []) ++ spelling.digits)

/-- The whole body. -/
def text (spelling : Spelling) : List Char :=
  spelling.core ++ spelling.suffix.toList

/-- Whether the suffix declares 64 bits. -/
def isWide (spelling : Spelling) : Bool :=
  spelling.suffix == "i64" || spelling.suffix == "ui64"

/-- A spelling of a number that fits into 64 bits. -/
structure Writes (spelling : Spelling) (magnitude : Nat) : Prop where
  /-- The digits write the number. -/
  digits : Numeral.read? spelling.base spelling.digits = some magnitude
  /-- The suffix is one of those that are known. -/
  suffix : spelling.suffix ∈ "" :: suffixes
  /-- Only hexadecimal digits may follow a plus sign. -/
  plus : spelling.plus = true → spelling.hexadecimal = true
  /-- The number fits. -/
  small : magnitude < 0x10000000000000000

end Spelling

/-! ## Suffixes -/

/-- A mark that starts outside the first piece is found in the second. -/
theorem before?_append {first : Char} {front : List Char} (absent : first ∉ front)
    (mark back : List Char) :
    Text.before? (first :: mark) (front ++ back) =
      (Text.before? (first :: mark) back).map (front ++ ·) := by
  ext rest
  rw [Option.map_eq_some_iff, Text.before?_eq_some_iff]
  constructor
  · intro whole
    rcases List.append_eq_append_iff.mp whole with ⟨middle, rfl, tail⟩ | ⟨middle, head, tail⟩
    · exact ⟨middle, Text.before?_eq_some_iff.mpr tail, rfl⟩
    · cases middle with
      | nil =>
          refine ⟨[], Text.before?_eq_some_iff.mpr tail.symm, ?_⟩
          rw [head, List.append_nil, List.append_nil]
      | cons character middle =>
          have same : first = character := (List.cons.inj tail).1
          exact absurd (by simp [head, same]) absent
  · rintro ⟨middle, found, rfl⟩
    rw [Text.before?_eq_some_iff.mp found, List.append_assoc]

theorem findSome?_before?_append {marks : List String} {front : List Char} (back : List Char)
    (outside : ∀ mark ∈ marks, ∃ first rest, mark.toList = first :: rest ∧ first ∉ front) :
    (marks.findSome? fun mark => Text.before? mark.toList (front ++ back)) =
      (marks.findSome? fun mark => Text.before? mark.toList back).map (front ++ ·) := by
  induction marks with
  | nil => rfl
  | cons mark marks ih =>
      obtain ⟨first, rest, shape, absent⟩ := outside mark (by simp)
      have others := ih fun later inside => outside later (by simp [inside])
      rw [List.findSome?_cons, List.findSome?_cons, others, shape, before?_append absent]
      cases Text.before? (first :: rest) back <;> rfl

/-- Whether some suffix starts with a character. -/
def startsSuffix (character : Char) : Bool :=
  character == 'u' || character == 'i' || character == 'l'

theorem exists_start_of_mem_suffixes {suffix : String} (listed : suffix ∈ suffixes) :
    ∃ first rest, suffix.toList = first :: rest ∧ startsSuffix first = true := by
  have starts : ∀ suffix ∈ suffixes, suffix.toList.head?.any startsSuffix = true := by decide
  obtain ⟨first, head, known⟩ := (Option.any_eq_true _ _).mp (starts suffix listed)
  obtain ⟨rest, shape⟩ := List.head?_eq_some_iff.mp head
  exact ⟨first, rest, shape, known⟩

/-- A suffix is looked for behind everything that starts none. -/
theorem dropSuffix_append {front : List Char} (back : List Char)
    (plain : ∀ character ∈ front, startsSuffix character = false) :
    dropSuffix (front ++ back) = front ++ dropSuffix back := by
  have outside : ∀ suffix ∈ suffixes,
      ∃ first rest, suffix.toList = first :: rest ∧ first ∉ front := by
    intro suffix listed
    obtain ⟨first, rest, shape, starts⟩ := exists_start_of_mem_suffixes listed
    refine ⟨first, rest, shape, fun inside => ?_⟩
    rw [plain first inside] at starts
    exact Bool.noConfusion starts
  rw [dropSuffix, dropSuffix, findSome?_before?_append back outside]
  cases suffixes.findSome? fun suffix => Text.before? suffix.toList back <;> rfl

theorem exists_suffix_of_dropSuffix (body : List Char) :
    ∃ suffix ∈ "" :: suffixes, body = dropSuffix body ++ suffix.toList := by
  unfold dropSuffix
  cases found : suffixes.findSome? fun suffix => Text.before? suffix.toList body with
  | none => exact ⟨"", by simp, by simp⟩
  | some rest =>
      obtain ⟨suffix, listed, taken⟩ := List.exists_of_findSome?_eq_some found
      exact ⟨suffix, by simp [listed], Text.before?_eq_some_iff.mp taken⟩

/-! ## Reading a spelling -/

/-- The characters of the body of a literal, in lower case. -/
def isBodyCharacter (character : Char) : Bool :=
  (Numeral.digitValue? 16 character).isSome || character == 'x' || character == '+'
    || startsSuffix character

theorem startsSuffix_of_digit {character : Char}
    (digit : (Numeral.digitValue? 16 character).isSome = true) :
    startsSuffix character = false := by
  cases starts : startsSuffix character with
  | false => rfl
  | true =>
      simp only [startsSuffix, Bool.or_eq_true, beq_iff_eq] at starts
      rcases starts with (rfl | rfl) | rfl <;> exact absurd digit (by decide)

namespace Spelling.Writes

variable {spelling : Spelling} {magnitude : Nat}

theorem digit_of_mem (writes : spelling.Writes magnitude) {character : Char}
    (inside : character ∈ spelling.digits) :
    (Numeral.digitValue? 16 character).isSome = true := by
  refine Numeral.isSome_digitValue?_sixteen ?_
    (Numeral.isSome_digitValue?_of_read? writes.digits inside)
  unfold Spelling.base
  split <;> omega

/-- What holds of digits and of the mark and the sign before them holds before the suffix. -/
theorem forall_mem_core (writes : spelling.Writes magnitude) (accepts : Char → Prop)
    (digits : ∀ character, (Numeral.digitValue? 16 character).isSome = true → accepts character)
    (mark : accepts 'x') (sign : spelling.plus = true → accepts '+') :
    ∀ character ∈ spelling.core, accepts character := by
  intro character inside
  simp only [Spelling.core, List.mem_append] at inside
  rcases inside with marked | signed | digit
  · split at marked
    · simp only [List.mem_cons, List.not_mem_nil, or_false] at marked
      rcases marked with rfl | rfl
      · exact digits _ (by decide)
      · exact mark
    · cases marked
  · split at signed
    · next plus =>
      rw [List.mem_singleton.mp signed]
      exact sign plus
    · cases signed
  · exact digits _ (writes.digit_of_mem digit)

theorem forall_mem_text (writes : spelling.Writes magnitude) (accepts : Char → Prop)
    (digits : ∀ character, (Numeral.digitValue? 16 character).isSome = true → accepts character)
    (mark : accepts 'x') (sign : spelling.plus = true → accepts '+')
    (listed : ∀ suffix ∈ "" :: suffixes, ∀ character ∈ suffix.toList, accepts character) :
    ∀ character ∈ spelling.text, accepts character := by
  intro character inside
  rcases List.mem_append.mp inside with core | suffix
  · exact writes.forall_mem_core accepts digits mark sign _ core
  · exact listed _ writes.suffix _ suffix

/-- No suffix starts before the digits end. -/
theorem plain_core (writes : spelling.Writes magnitude) :
    ∀ character ∈ spelling.core, startsSuffix character = false :=
  writes.forall_mem_core _ (fun _ => startsSuffix_of_digit) (by decide) (fun _ => by decide)

theorem dropSuffix_text (writes : spelling.Writes magnitude) :
    dropSuffix spelling.text = spelling.core := by
  have whole : ∀ suffix ∈ "" :: suffixes, dropSuffix suffix.toList = [] := by decide
  rw [Spelling.text, dropSuffix_append _ writes.plain_core, whole _ writes.suffix,
    List.append_nil]

theorem isWide_text (writes : spelling.Writes magnitude) :
    (Text.before? "i64".toList spelling.text).isSome = spelling.isWide := by
  have absent : 'i' ∉ spelling.core := fun inside =>
    absurd (writes.plain_core _ inside) (by decide)
  have listed : ∀ suffix ∈ "" :: suffixes,
      (Text.before? ['i', '6', '4'] suffix.toList).isSome =
        (suffix == "i64" || suffix == "ui64") := by decide
  have behind := before?_append absent ['6', '4'] spelling.suffix.toList
  rw [Spelling.text, show "i64".toList = ['i', '6', '4'] from rfl, behind, Option.isSome_map,
    listed _ writes.suffix]
  rfl

theorem readWord?_digits (writes : spelling.Writes magnitude) :
    Numeral.readWord? spelling.base spelling.digits = some (UInt64.ofNat magnitude) := by
  have same : (UInt64.ofNat magnitude).toNat = magnitude := by
    rw [UInt64.toNat_ofNat']
    exact Nat.mod_eq_of_lt writes.small
  rw [Numeral.readWord?_eq_some_iff, same]
  exact writes.digits

theorem magnitude?_core (writes : spelling.Writes magnitude) :
    magnitude? spelling.core = some (UInt64.ofNat magnitude) := by
  have reads := writes.readWord?_digits
  have no_sign : '+' ∉ spelling.digits := fun inside =>
    absurd (writes.digit_of_mem inside) (by decide)
  have no_mark : 'x' ∉ spelling.digits := fun inside =>
    absurd (writes.digit_of_mem inside) (by decide)
  have only_hexadecimal := writes.plus
  obtain ⟨hexadecimal, plus, digits, suffix⟩ := spelling
  cases hexadecimal with
  | true =>
      have behind : Text.after? ['0', 'x'] (Spelling.core ⟨true, plus, digits, suffix⟩) =
          some ((if plus then ['+'] else []) ++ digits) := Text.after?_eq_some_iff.mpr rfl
      simp only [magnitude?, behind, Numeral.readPlusWord?]
      cases plus with
      | true =>
          have signed : Text.after? ['+'] ('+' :: digits) = some digits :=
            Text.after?_eq_some_iff.mpr rfl
          simpa [signed, Spelling.base] using reads
      | false =>
          have unsigned : Text.after? ['+'] digits = none :=
            Text.after?_eq_none_of_mem '+' (by simp) no_sign
          simpa [unsigned, Spelling.base] using reads
  | false =>
      cases plus with
      | true => exact Bool.noConfusion (only_hexadecimal rfl)
      | false =>
          have unmarked : Text.after? ['0', 'x'] digits = none :=
            Text.after?_eq_none_of_mem 'x' (by simp) no_mark
          simpa [magnitude?, Spelling.core, Spelling.base, unmarked] using reads

/-- The characters of a body are digits, the mark and sign before them and those of a suffix. -/
theorem bodyCharacter_of_mem (writes : spelling.Writes magnitude) :
    ∀ character ∈ spelling.text, isBodyCharacter character = true := by
  have listed : ∀ suffix ∈ "" :: suffixes, suffix.toList.all isBodyCharacter = true := by decide
  refine writes.forall_mem_text _ ?_ (by decide) (fun _ => by decide)
    fun suffix known => List.all_eq_true.mp (listed suffix known)
  intro character digit
  simp [isBodyCharacter, digit]

end Spelling.Writes

/-- Digits that are read are spelled out, with a plus sign at most behind `0x`. -/
theorem exists_core_of_magnitude? {body : List Char} {word : UInt64}
    (found : magnitude? body = some word) :
    ∃ spelling : Spelling, spelling.core = body ∧
      (spelling.plus = true → spelling.hexadecimal = true) ∧
        Numeral.read? spelling.base spelling.digits = some word.toNat := by
  unfold magnitude? at found
  split at found
  · next hexadecimal marked =>
    have whole := Text.after?_eq_some_iff.mp marked
    unfold Numeral.readPlusWord? at found
    cases signed : Text.after? ['+'] hexadecimal with
    | some digits =>
        have sign := Text.after?_eq_some_iff.mp signed
        rw [signed] at found
        refine ⟨{ hexadecimal := true, plus := true, digits }, ?_, fun _ => rfl,
          Numeral.readWord?_eq_some_iff.mp found⟩
        rw [whole, sign]
        rfl
    | none =>
        rw [signed] at found
        refine ⟨{ hexadecimal := true, digits := hexadecimal }, ?_, fun _ => rfl,
          Numeral.readWord?_eq_some_iff.mp found⟩
        rw [whole]
        rfl
  · exact ⟨{ hexadecimal := false, digits := body }, rfl, fun signed => Bool.noConfusion signed,
      Numeral.readWord?_eq_some_iff.mp found⟩

/-- A body that is read is spelled by digits that write the number and at most one suffix. -/
theorem exists_spelling {body : List Char} {word : UInt64}
    (found : magnitude? (dropSuffix body) = some word) :
    ∃ spelling : Spelling, spelling.text = body ∧ spelling.Writes word.toNat := by
  obtain ⟨suffix, listed, whole⟩ := exists_suffix_of_dropSuffix body
  obtain ⟨spelling, core, plus, digits⟩ := exists_core_of_magnitude? found
  refine ⟨{ spelling with suffix }, ?_, digits, listed, plus, word.toNat_lt⟩
  rw [Spelling.text, whole, ← core]
  rfl

end IntLiteral

end LayoutRecovery
