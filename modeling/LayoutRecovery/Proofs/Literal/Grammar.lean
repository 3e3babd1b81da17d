import LayoutRecovery.Proofs.Literal.Row
import LayoutRecovery.Proofs.Literal.Token

/-!
# The grammar of integer literals

Which texts are integer literals, told without the reader: white space, perhaps a minus sign with
more white space behind it, decimal digits or hexadecimal ones behind `0x`, and perhaps a width
suffix, in letters of either case.  Reading accepts exactly these texts if their number is below
`2 ^ 64`, and takes the signed number modulo `2 ^ 64`.  So a signed word is read back from its
decimal digits and from those of its bits.
-/

namespace LayoutRecovery
namespace IntLiteral

/-! ## Bodies -/

/-- Digits with the mark of their base, and the number that they write. -/
inductive Digits : List Char → Nat → Prop
  | decimal {row : List Char} {magnitude : Nat} (digits : Numeral.Row 10 row magnitude) :
      Digits row magnitude
  | hexadecimal {row : List Char} {magnitude : Nat} (digits : Numeral.Row 16 row magnitude) :
      Digits ('0' :: 'x' :: row) magnitude
  | signed {row : List Char} {magnitude : Nat} (digits : Numeral.Row 16 row magnitude) :
      Digits ('0' :: 'x' :: '+' :: row) magnitude

/-- The width suffixes of a literal, and none. -/
def widths : List String :=
  ["", "u", "l", "ul", "ll", "ull", "i64", "ui64"]

/-- The body of a literal: digits and perhaps a suffix, in letters of either case. -/
structure Body (body : List Char) (magnitude : Nat) (suffix : String) : Prop where
  letters : ∃ digits, body.map Char.toLower = digits ++ suffix.toList ∧ Digits digits magnitude
  known : suffix ∈ widths
  small : magnitude < 0x10000000000000000

theorem Digits.ofNat (number : Nat) : Digits (Nat.toDigits 10 number) number :=
  .decimal (Numeral.Row.toDigits (by decide) (by decide) number)

theorem mem_widths_iff {suffix : String} : suffix ∈ widths ↔ suffix ∈ "" :: suffixes := by
  simp only [widths, suffixes, List.mem_cons, List.not_mem_nil, or_false]
  tauto

theorem Digits.exists_spelling {digits : List Char} {magnitude : Nat}
    (writes : Digits digits magnitude) {suffix : String} (known : suffix ∈ widths)
    (small : magnitude < 0x10000000000000000) :
    ∃ spelling : Spelling, spelling.core = digits ∧ spelling.suffix = suffix ∧
      spelling.Writes magnitude := by
  have listed := mem_widths_iff.mp known
  cases writes with
  | decimal row =>
      have read := (Numeral.Row.read?_eq_some_iff (by decide)).mpr row
      exact ⟨{ hexadecimal := false, digits, suffix }, rfl, rfl, read, listed, nofun, small⟩
  | @hexadecimal digits _ row =>
      have read := (Numeral.Row.read?_eq_some_iff le_rfl).mpr row
      exact ⟨{ hexadecimal := true, digits, suffix }, rfl, rfl, read, listed, nofun, small⟩
  | @signed digits _ row =>
      have read := (Numeral.Row.read?_eq_some_iff le_rfl).mpr row
      exact ⟨{ hexadecimal := true, plus := true, digits, suffix }, rfl, rfl, read, listed,
        fun _ => rfl, small⟩

theorem Spelling.Writes.digits_core {spelling : Spelling} {magnitude : Nat}
    (writes : spelling.Writes magnitude) : Digits spelling.core magnitude := by
  obtain ⟨read, -, only_hexadecimal, -⟩ := writes
  obtain ⟨hexadecimal, plus, digits, suffix⟩ := spelling
  have row := (Numeral.Row.read?_eq_some_iff (by unfold Spelling.base; split <;> omega)).mp read
  cases hexadecimal with
  | true =>
      cases plus with
      | true => exact .signed row
      | false => exact .hexadecimal row
  | false =>
      cases plus with
      | true => exact Bool.noConfusion (only_hexadecimal rfl)
      | false => exact .decimal row

/-- A text is the body of a literal exactly if its lower-case form is a spelling. -/
theorem body_iff {body : List Char} {magnitude : Nat} {suffix : String} :
    Body body magnitude suffix ↔ ∃ spelling : Spelling,
      spelling.text = body.map Char.toLower ∧ spelling.suffix = suffix ∧
        spelling.Writes magnitude := by
  constructor
  · rintro ⟨⟨digits, lower, writes⟩, known, small⟩
    obtain ⟨spelling, core, rfl, spells⟩ := writes.exists_spelling known small
    exact ⟨spelling, by rw [Spelling.text, core, lower], rfl, spells⟩
  · rintro ⟨spelling, lower, rfl, spells⟩
    exact ⟨⟨spelling.core, lower.symm, spells.digits_core⟩, mem_widths_iff.mpr spells.suffix,
      spells.small⟩

theorem isBlank_of_bodyCharacter {character : Char}
    (known : isBodyCharacter character.toLower = true) : Text.isBlank character = false := by
  rcases Text.isUpper_or_toLower_eq character with upper | same
  · exact Text.isBlank_of_isIdentifierCharacter (Text.isIdentifierCharacter_of_isUpper upper)
  · simp only [same, isBodyCharacter, startsSuffix, Bool.or_eq_true, beq_iff_eq] at known
    rcases known with ((digit | rfl) | rfl) | (rfl | rfl) | rfl
    · exact Text.isBlank_of_isIdentifierCharacter
        (Text.isIdentifierCharacter_of_isAlphanum (Numeral.isAlphanum_of_digit digit))
    all_goals decide

namespace Body

variable {body : List Char} {magnitude : Nat} {suffix : String}

theorem bodyCharacter_of_mem (spelled : Body body magnitude suffix) {character : Char}
    (inside : character ∈ body) : isBodyCharacter character.toLower = true := by
  obtain ⟨spelling, lower, -, writes⟩ := body_iff.mp spelled
  refine writes.bodyCharacter_of_mem _ ?_
  rw [lower]
  exact List.mem_map_of_mem inside

theorem visible (spelled : Body body magnitude suffix) :
    ∀ character ∈ body, Text.isBlank character = false := fun _ inside =>
  isBlank_of_bodyCharacter (spelled.bodyCharacter_of_mem inside)

theorem ne_nil (spelled : Body body magnitude suffix) : body ≠ [] := by
  rintro rfl
  obtain ⟨⟨digits, lower, writes⟩, -, -⟩ := spelled
  obtain ⟨rfl, -⟩ := List.append_eq_nil_iff.mp lower.symm
  cases writes with
  | decimal row => exact row.ne_nil rfl

theorem unsigned (spelled : Body body magnitude suffix) : Text.after? ['-'] body = none :=
  Text.after?_eq_none_of_mem '-' (by simp) fun inside =>
    absurd (spelled.bodyCharacter_of_mem inside) (by decide)

/-- The word that is read from a body, and whether it is read as one of 64 bits. -/
theorem read (spelled : Body body magnitude suffix) :
    magnitude? (dropSuffix (body.map Char.toLower)) = some (UInt64.ofNat magnitude) ∧
      (Text.before? "i64".toList (body.map Char.toLower)).isSome =
        (suffix == "i64" || suffix == "ui64") := by
  obtain ⟨spelling, lower, rfl, writes⟩ := body_iff.mp spelled
  rw [← lower, writes.dropSuffix_text, writes.magnitude?_core, writes.isWide_text]
  exact ⟨rfl, rfl⟩

end Body

/-! ## Literals -/

/-- Where the body stands in the text of a literal, and whether a minus sign stands before it. -/
inductive Encloses (body : List Char) : List Char → Bool → Prop
  | plain {before after : List Char}
      (blank_before : ∀ character ∈ before, Text.isBlank character = true)
      (blank_after : ∀ character ∈ after, Text.isBlank character = true) :
      Encloses body (before ++ (body ++ after)) false
  | negated {before between after : List Char}
      (blank_before : ∀ character ∈ before, Text.isBlank character = true)
      (blank_between : ∀ character ∈ between, Text.isBlank character = true)
      (blank_after : ∀ character ∈ after, Text.isBlank character = true) :
      Encloses body (before ++ ('-' :: (between ++ body) ++ after)) true

theorem exists_encloses (text : List Char) :
    Encloses (((Text.after? ['-'] (Text.trim text)).map Text.trimStart).getD (Text.trim text))
      text (Text.after? ['-'] (Text.trim text)).isSome := by
  obtain ⟨before, after, blank_before, blank_after, whole⟩ := Text.exists_trim text
  cases sign : Text.after? ['-'] (Text.trim text) with
  | none =>
      have place : Encloses (Text.trim text) (before ++ (Text.trim text ++ after)) false :=
        .plain blank_before blank_after
      rwa [← whole] at place
  | some rest =>
      obtain ⟨between, blank_between, behind⟩ := Text.eq_blanks_append_trimStart rest
      have place : Encloses (Text.trimStart rest)
          (before ++ ('-' :: (between ++ Text.trimStart rest) ++ after)) true :=
        .negated blank_before blank_between blank_after
      have token : '-' :: rest = Text.trim text := (Text.after?_eq_some_iff.mp sign).symm
      rwa [← behind, token, ← whole] at place

/-- The signed number of a literal. -/
def signed (negative : Bool) (magnitude : Nat) : Int :=
  if negative then -magnitude else magnitude

/-- A literal is read as its signed number. -/
theorem Body.read?_of_encloses {body text : List Char} {magnitude : Nat} {suffix : String}
    (spelled : Body body magnitude suffix) {negative : Bool} (place : Encloses body text negative) :
    read? text = some
      { value := Int64.ofInt (signed negative magnitude),
        wide := suffix == "i64" || suffix == "ui64" } := by
  have same : (UInt64.ofNat magnitude).toNat = magnitude := by
    rw [UInt64.toNat_ofNat']
    exact Nat.mod_eq_of_lt spelled.small
  obtain ⟨word, wide⟩ := spelled.read
  have last := spelled.visible _ (List.getLast_mem spelled.ne_nil)
  obtain ⟨first, rest, shape⟩ := List.exists_cons_of_ne_nil spelled.ne_nil
  have starts : Text.isBlank first = false := spelled.visible first (by simp [shape])
  cases place with
  | @plain before after blank_before blank_after =>
      have token : Text.trim (before ++ (body ++ after)) = body := by
        subst shape
        exact Text.trim_between blank_before blank_after starts last
      simp only [read?, token, spelled.unsigned, Option.map_none, Option.getD_none, word, wide,
        Option.map_some, Option.isSome_none, same]
      rfl
  | @negated before between after blank_before blank_between blank_after =>
      have ends : ('-' :: (between ++ body)).getLast (List.cons_ne_nil _ _) =
          body.getLast spelled.ne_nil := by
        rw [List.getLast_cons (List.append_ne_nil_of_right_ne_nil _ spelled.ne_nil),
          List.getLast_append_of_right_ne_nil _ _ spelled.ne_nil]
      have token : Text.trim (before ++ ('-' :: (between ++ body) ++ after)) =
          '-' :: (between ++ body) :=
        Text.trim_between blank_before blank_after (by decide) (by rwa [ends])
      have behind : Text.trimStart (between ++ body) = body := by
        rw [shape]
        exact Text.trimStart_blanks blank_between starts rest
      have sign : Text.after? ['-'] ('-' :: (between ++ body)) = some (between ++ body) :=
        Text.after?_eq_some_iff.mpr rfl
      simp only [read?, token, sign, behind, Option.map_some, Option.getD_some, word, wide,
        Option.isSome_some, same]
      rfl

/-- A text that is read is a literal. -/
theorem exists_body_of_read? {text : List Char} {literal : IntLiteral}
    (found : read? text = some literal) :
    ∃ body negative magnitude suffix,
      Encloses body text negative ∧ Body body magnitude suffix := by
  obtain ⟨word, magnitude, -⟩ := Option.map_eq_some_iff.mp found
  obtain ⟨spelling, lower, writes⟩ := exists_spelling magnitude
  exact ⟨_, _, _, _, exists_encloses text, body_iff.mpr ⟨spelling, lower, rfl, writes⟩⟩

/-! ## Printed words -/

/-- The texts that are printed for a signed word, with zeros before the digits of its bits. -/
inductive Prints (value : Int64) : List Char → Prop
  | signed : Prints value (toString value.toInt).toList
  | unsigned : Prints value (Nat.toDigits 10 value.toUInt64.toNat)
  | hexadecimal (width : Nat) :
      Prints value ('0' :: 'x' :: (Nat.toDigits 16 value.toUInt64.toNat).leftpad width '0')

theorem ofInt_toUInt64 (value : Int64) : Int64.ofInt value.toUInt64.toNat = value := by
  rw [← Int64.toInt_inj, Int64.toInt_ofInt]
  exact (BitVec.toInt_eq_toNat_bmod value.toBitVec).symm

theorem eq_minus_of_toLower {character : Char} (lower : character.toLower = '-') :
    character = '-' := by
  have code := congrArg Char.toNat lower
  rw [Numeral.toNat_toLower, show '-'.toNat = 45 from rfl] at code
  rw [← Char.toNat_inj, show '-'.toNat = 45 from rfl]
  split_ifs at code <;> omega

section

variable {text digits : List Char} {magnitude : Nat} {suffix : String}

theorem Digits.value_read? (writes : Digits digits magnitude) (known : suffix ∈ widths)
    (small : magnitude < 0x10000000000000000)
    (lower : text.map Char.toLower = digits ++ suffix.toList) :
    (read? text).map value = some (Int64.ofInt magnitude) := by
  have place : Encloses text text false := by
    have bare : Encloses text ([] ++ (text ++ [])) false := .plain nofun nofun
    rwa [List.nil_append, List.append_nil] at bare
  have spelled : Body text magnitude suffix := ⟨⟨digits, lower, writes⟩, known, small⟩
  rw [spelled.read?_of_encloses place]
  rfl

theorem Digits.value_read?_minus (writes : Digits digits magnitude) (known : suffix ∈ widths)
    (small : magnitude < 0x10000000000000000)
    (lower : text.map Char.toLower = '-' :: digits ++ suffix.toList) :
    (read? text).map value = some (Int64.ofInt (-magnitude)) := by
  obtain ⟨sign, body, rfl, minus, behind⟩ := List.map_eq_cons_iff.mp lower
  obtain rfl := eq_minus_of_toLower minus
  have place : Encloses body ('-' :: body) true := by
    have bare : Encloses body ([] ++ ('-' :: ([] ++ body) ++ [])) true :=
      .negated nofun nofun nofun
    rwa [List.nil_append, List.nil_append, List.append_nil] at bare
  have spelled : Body body magnitude suffix := ⟨⟨digits, behind, writes⟩, known, small⟩
  rw [spelled.read?_of_encloses place]
  rfl

/-- What is printed for a word is read back as this word. -/
theorem Prints.value_read? {value : Int64} {printed : List Char} (prints : Prints value printed)
    (known : suffix ∈ widths) (lower : text.map Char.toLower = printed ++ suffix.toList) :
    (read? text).map IntLiteral.value = some value := by
  have small : value.toUInt64.toNat < 0x10000000000000000 := value.toUInt64.toNat_lt
  cases prints with
  | signed =>
      have least : -0x8000000000000000 ≤ value.toInt := value.le_toInt
      have most : value.toInt < 0x8000000000000000 := value.toInt_lt
      have same := value.ofInt_toInt
      cases number : value.toInt with
      | ofNat natural =>
          rw [number] at lower same most
          change (natural : Int) < 0x8000000000000000 at most
          have digits : (toString (Int.ofNat natural)).toList = Nat.toDigits 10 natural :=
            Nat.toList_repr
          rw [digits] at lower
          rw [(Digits.ofNat natural).value_read? known (by omega) lower]
          exact congrArg some same
      | negSucc natural =>
          rw [number] at lower same least
          have digits : (toString (Int.negSucc natural)).toList =
              '-' :: Nat.toDigits 10 (natural + 1) := by
            change ("-" ++ toString (natural + 1)).toList = _
            rw [String.toList_append]
            exact congrArg ('-' :: ·) Nat.toList_repr
          rw [digits] at lower
          rw [(Digits.ofNat (natural + 1)).value_read?_minus known (by omega) lower]
          exact congrArg some same
  | unsigned =>
      rw [(Digits.ofNat value.toUInt64.toNat).value_read? known small lower, ofInt_toUInt64]
  | hexadecimal width =>
      have row := Numeral.Row.toDigits (by decide) le_rfl value.toUInt64.toNat
      have padded := Digits.hexadecimal (row.leftpad (by decide) width)
      rw [padded.value_read? known small lower, ofInt_toUInt64]

end

/--
The integer literals and what they are read as.  A text is read exactly if it holds a body between
white space, perhaps behind a minus sign, and its value is the signed number modulo `2 ^ 64`.
What is printed for a word is read back, with any suffix and in letters of either case.
-/
theorem read?_eq_some_iff_and_value_of_prints :
    (∀ text literal, read? text = some literal ↔
      ∃ body negative magnitude suffix,
        Encloses body text negative ∧ Body body magnitude suffix ∧
          literal.value.toInt = (signed negative magnitude).bmod 0x10000000000000000 ∧
            (literal.wide = true ↔ suffix = "i64" ∨ suffix = "ui64")) ∧
      ∀ value printed, Prints value printed → ∀ suffix ∈ widths, ∀ text : List Char,
        text.map Char.toLower = printed ++ suffix.toList →
          (read? text).map IntLiteral.value = some value := by
  refine ⟨fun text literal => ⟨fun found => ?_, ?_⟩, fun value printed prints suffix known text =>
    prints.value_read? known⟩
  · obtain ⟨body, negative, magnitude, suffix, place, spelled⟩ := exists_body_of_read? found
    obtain rfl := Option.some.inj (found.symm.trans (spelled.read?_of_encloses place))
    exact ⟨body, negative, magnitude, suffix, place, spelled, Int64.toInt_ofInt, by simp⟩
  · rintro ⟨body, negative, magnitude, suffix, place, spelled, number, width⟩
    rw [spelled.read?_of_encloses place]
    have same : Int64.ofInt (signed negative magnitude) = literal.value :=
      Int64.toInt_inj.mp (Int64.toInt_ofInt.trans number.symm)
    have wide : (suffix == "i64" || suffix == "ui64") = literal.wide := by
      rw [Bool.eq_iff_iff, width]
      simp
    rw [same, wide]

/-- The least word is read back, though its magnitude is beyond the greatest one. -/
theorem value_read?_minValue :
    Prints Int64.minValue "-9223372036854775808".toList ∧ "ui64" ∈ widths ∧
      (read? "-9223372036854775808UI64".toList).map value = some Int64.minValue := by
  have prints : Prints Int64.minValue "-9223372036854775808".toList := .signed
  have known : "ui64" ∈ widths := by decide
  exact ⟨prints, known, read?_eq_some_iff_and_value_of_prints.2 _ _ prints _ known _ (by decide)⟩

end IntLiteral
end LayoutRecovery
