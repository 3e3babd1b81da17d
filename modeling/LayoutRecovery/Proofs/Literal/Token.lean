import LayoutRecovery.Proofs.Literal.Spelling
import LayoutRecovery.Text.WordCharacter

/-!
# Integer tokens

A token of letters and digits that spells a number is read as that number, in whatever case it is
written.  A text that is read as a literal holds, apart from white space and minus signs, only
characters of spellings.
-/

namespace LayoutRecovery

namespace Text

theorem isUpper_or_toLower_eq (character : Char) :
    character.isUpper = true ∨ character.toLower = character := by
  unfold Char.toLower
  split
  · next upper => exact .inl (decide_eq_true upper)
  · exact .inr rfl

theorem isIdentifierCharacter_of_isAlphanum {character : Char}
    (alphanumeric : character.isAlphanum = true) : isIdentifierCharacter character = true := by
  rw [isIdentifierCharacter, alphanumeric, Bool.true_or]

theorem isIdentifierCharacter_of_isUpper {character : Char} (upper : character.isUpper = true) :
    isIdentifierCharacter character = true := by
  have letter : (character.isUpper || character.isLower) = true := by rw [upper, Bool.true_or]
  exact isIdentifierCharacter_of_isAlphanum (Bool.or_eq_true_iff.mpr (.inl letter))

theorem isIdentifierCharacter_of_toLower {character : Char}
    (lower : character.toLower.isAlphanum = true) : isIdentifierCharacter character = true := by
  rcases isUpper_or_toLower_eq character with upper | same
  · exact isIdentifierCharacter_of_isUpper upper
  · rw [same] at lower
    exact isIdentifierCharacter_of_isAlphanum lower

theorem isAlphanum_iff {character : Char} :
    character.isAlphanum = true ↔
      (65 ≤ character.toNat ∧ character.toNat ≤ 90) ∨
        (97 ≤ character.toNat ∧ character.toNat ≤ 122) ∨
          (48 ≤ character.toNat ∧ character.toNat ≤ 57) := by
  have ranges : character.isAlphanum =
      (decide (65 ≤ character.toNat ∧ character.toNat ≤ 90) ||
        (decide (97 ≤ character.toNat) && decide (character.toNat ≤ 122)) ||
          (decide (48 ≤ character.toNat) && decide (character.toNat ≤ 57))) := rfl
  simp only [ranges, Bool.or_eq_true, Bool.and_eq_true, decide_eq_true_eq, or_assoc]

theorem isBlank_of_isIdentifierCharacter {character : Char}
    (identifier : isIdentifierCharacter character = true) : isBlank character = false := by
  simp only [isIdentifierCharacter, Bool.or_eq_true, beq_iff_eq, isAlphanum_iff] at identifier
  rcases identifier with inside | rfl
  · simp [isBlank, inRanges, blankRanges]
    omega
  · decide

theorem isWordCharacter_of_isIdentifierCharacter {character : Char}
    (identifier : isIdentifierCharacter character = true) : isWordCharacter character = true := by
  have ascii : character.toNat < 0x80 := by
    simp only [isIdentifierCharacter, Bool.or_eq_true, beq_iff_eq, isAlphanum_iff] at identifier
    rcases identifier with inside | rfl
    · omega
    · decide
  rw [isWordCharacter, if_pos ascii, identifier]

theorem isIdentifierCharacter_of_isDigit {character : Char} (digit : character.isDigit = true) :
    isIdentifierCharacter character = true := by
  simp [isIdentifierCharacter, Char.isAlphanum, digit]

end Text

namespace Numeral

theorem isAlphanum_of_digit {base : Nat} {character : Char}
    (digit : (digitValue? base character).isSome = true) : character.isAlphanum = true := by
  obtain ⟨value, found⟩ := Option.isSome_iff_exists.mp digit
  obtain ⟨raw, -⟩ := Option.filter_eq_some_iff.mp found
  rw [Text.isAlphanum_iff]
  split at raw
  · next decimal => exact Text.isAlphanum_iff.mp (by simp [Char.isAlphanum, decimal])
  · split at raw
    · next lower =>
      have first : 97 ≤ character.toNat := lower.1
      have last : character.toNat ≤ 102 := lower.2
      omega
    · split at raw
      · next upper =>
        have first : 65 ≤ character.toNat := upper.1
        have last : character.toNat ≤ 70 := upper.2
        omega
      · cases raw

end Numeral

namespace IntLiteral

/-- A token of letters and digits whose lower-case form spells a number. -/
def Spells (token : List Char) (magnitude : Nat) : Prop :=
  ∃ spelling : Spelling, spelling.plus = false ∧ token.map Char.toLower = spelling.text ∧
    spelling.Writes magnitude

/-- Without a plus sign, all characters of a body are letters and digits. -/
theorem Spelling.Writes.isAlphanum_of_mem {spelling : Spelling} {magnitude : Nat}
    (writes : spelling.Writes magnitude) (unsigned : spelling.plus = false) :
    ∀ character ∈ spelling.text, character.isAlphanum = true := by
  have listed : ∀ suffix ∈ "" :: suffixes, suffix.toList.all Char.isAlphanum = true := by decide
  refine writes.forall_mem_text _ (fun _ => Numeral.isAlphanum_of_digit) (by decide) ?_
    fun suffix known => List.all_eq_true.mp (listed suffix known)
  intro signed
  rw [unsigned] at signed
  cases signed

namespace Spells

variable {token : List Char} {magnitude : Nat}

theorem identifier_of_mem (spells : Spells token magnitude) {character : Char}
    (inside : character ∈ token) : Text.isIdentifierCharacter character = true := by
  obtain ⟨spelling, unsigned, lower, writes⟩ := spells
  refine Text.isIdentifierCharacter_of_toLower (writes.isAlphanum_of_mem unsigned _ ?_)
  rw [← lower]
  exact List.mem_map_of_mem inside

theorem bodyCharacter_of_mem (spells : Spells token magnitude) {character : Char}
    (inside : character ∈ token) : isBodyCharacter character.toLower = true := by
  obtain ⟨spelling, -, lower, writes⟩ := spells
  refine writes.bodyCharacter_of_mem _ ?_
  rw [← lower]
  exact List.mem_map_of_mem inside

theorem ne_nil (spells : Spells token magnitude) : token ≠ [] := by
  rintro rfl
  obtain ⟨spelling, -, lower, writes⟩ := spells
  have digits := writes.digits
  simp only [List.map_nil, Spelling.text, Spelling.core, List.nil_eq,
    List.append_eq_nil_iff] at lower
  rw [lower.1.2.2] at digits
  cases digits

/-- What spells a number is read as that number. -/
theorem exists_read? (spells : Spells token magnitude) :
    ∃ wide, read? token = some { value := Int64.ofInt magnitude, wide } := by
  have visible : ∀ character ∈ token, Text.isBlank character = false := fun _ inside =>
    Text.isBlank_of_isIdentifierCharacter (spells.identifier_of_mem inside)
  have unsigned : Text.after? ['-'] token = none :=
    Text.after?_eq_none_of_mem '-' (by simp) fun inside =>
      absurd (spells.identifier_of_mem inside) (by decide)
  obtain ⟨spelling, -, lower, writes⟩ := spells
  have same : (UInt64.ofNat magnitude).toNat = magnitude := by
    rw [UInt64.toNat_ofNat']
    exact Nat.mod_eq_of_lt writes.small
  refine ⟨spelling.isWide, ?_⟩
  simp only [read?, Text.trim_of_forall visible, unsigned, Option.map_none, Option.getD_none,
    lower, writes.dropSuffix_text, writes.magnitude?_core, writes.isWide_text, Option.map_some,
    Option.isSome_none, same]
  rfl

end Spells

theorem read?_trim (text : List Char) : read? (Text.trim text) = read? text := by
  rw [read?, read?, Text.trim_trim]

/-- A text that is read holds only white space, minus signs and characters of spellings. -/
theorem character_of_read? {text : List Char} {literal : IntLiteral}
    (found : read? text = some literal) {character : Char} (inside : character ∈ text) :
    Text.isBlank character = true ∨ character = '-' ∨
      isBodyCharacter character.toLower = true := by
  obtain ⟨word, magnitude, -⟩ := Option.map_eq_some_iff.mp found
  obtain ⟨spelling, lower, writes⟩ := exists_spelling magnitude
  have of_body : ∀ character ∈
      ((Text.after? ['-'] (Text.trim text)).map Text.trimStart).getD (Text.trim text),
        isBodyCharacter character.toLower = true := by
    intro character member
    refine writes.bodyCharacter_of_mem _ ?_
    rw [lower]
    exact List.mem_map_of_mem member
  rcases Text.isBlank_or_mem_trim inside with blank | token
  · exact .inl blank
  · cases negated : Text.after? ['-'] (Text.trim text) with
    | none =>
        rw [negated] at of_body
        exact .inr (.inr (of_body _ token))
    | some rest =>
        rw [negated] at of_body
        rw [Text.after?_eq_some_iff.mp negated] at token
        rcases List.mem_cons.mp token with sign | later
        · exact .inr (.inl sign)
        · exact (Text.isBlank_or_mem_trimStart later).imp_right fun body =>
            .inr (of_body _ body)

theorem not_mem_of_read? {text : List Char} {literal : IntLiteral}
    (found : read? text = some literal) {character : Char}
    (visible : Text.isBlank character = false) (no_sign : character ≠ '-')
    (foreign : isBodyCharacter character.toLower = false) : character ∉ text := by
  intro inside
  rcases character_of_read? found inside with blank | sign | body
  · exact Bool.noConfusion (visible.symm.trans blank)
  · exact no_sign sign
  · exact Bool.noConfusion (foreign.symm.trans body)

theorem trim_ne_nil_of_read? {text : List Char} {literal : IntLiteral}
    (found : read? text = some literal) : Text.trim text ≠ [] := by
  intro empty
  have nothing : read? [] = none := by decide
  rw [← read?_trim, empty, nothing] at found
  cases found

/-- The sign and the white space behind it do not look like the start of a suffix. -/
theorem not_mem_sign {blanks : List Char}
    (white : ∀ character ∈ blanks, Text.isBlank character = true) :
    'i' ∉ ('-' :: blanks).map Char.toLower := by
  intro inside
  obtain ⟨character, member, lower⟩ := List.mem_map.mp inside
  rcases List.mem_cons.mp member with rfl | blank
  · exact absurd lower (by decide)
  · have letter : character.toLower.isAlphanum = true := by
      rw [lower]
      decide
    have visible :=
      Text.isBlank_of_isIdentifierCharacter (Text.isIdentifierCharacter_of_toLower letter)
    exact Bool.noConfusion (visible.symm.trans (white _ blank))

/-- A literal is wide exactly if its text, in lower case, ends in `i64`. -/
theorem wide_of_read? {text : List Char} {literal : IntLiteral}
    (found : read? text = some literal) :
    literal.wide = (Text.before? "i64".toList ((Text.trim text).map Char.toLower)).isSome := by
  obtain ⟨word, -, rfl⟩ := Option.map_eq_some_iff.mp found
  cases negated : Text.after? ['-'] (Text.trim text) with
  | none => simp
  | some rest =>
      have white : ∀ character ∈ rest.takeWhile Text.isBlank, Text.isBlank character = true :=
        fun _ => List.mem_takeWhile_imp
      have whole : (Text.trim text).map Char.toLower =
          ('-' :: rest.takeWhile Text.isBlank).map Char.toLower ++
            (Text.trimStart rest).map Char.toLower := by
        have parts : rest.takeWhile Text.isBlank ++ Text.trimStart rest = rest :=
          List.takeWhile_append_dropWhile
        rw [← List.map_append, List.cons_append, parts, Text.after?_eq_some_iff.mp negated]
        rfl
      have behind := before?_append (not_mem_sign white) ['6', '4']
        ((Text.trimStart rest).map Char.toLower)
      rw [whole, show "i64".toList = ['i', '6', '4'] from rfl, behind, Option.isSome_map]
      rfl

theorem low_eq (literal : IntLiteral) :
    literal.low = UInt32.ofNat (literal.value.toInt % 0x100000000).toNat := by
  have signed : literal.value.toInt = literal.value.toBitVec.toInt := rfl
  have bound := literal.value.toBitVec.isLt
  apply UInt32.toNat_inj.mp
  rw [signed, BitVec.toInt_eq_toNat_cond, UInt32.toNat_ofNat']
  simp only [low, UInt64.toNat_toUInt32]
  change literal.value.toBitVec.toNat % 0x100000000 = _
  split <;> omega

end IntLiteral

end LayoutRecovery
