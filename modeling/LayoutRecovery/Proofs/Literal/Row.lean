import LayoutRecovery.Proofs.Literal.Spelling

/-!
# Rows of digits

A row of digits writes a number in a base up to sixteen, its letters in either case.  Reading finds
exactly this number.  The digits that are printed for a number write it, and so they do with zeros
in front and in the other case.  So the eight digits of a word determine it.
-/

namespace LayoutRecovery
namespace Numeral

/-! ## Digits -/

/-- A character that is the digit of a value, a letter in either case. -/
def IsDigit (base : Nat) (character : Char) (value : Nat) : Prop :=
  value < base ∧ character.toLower = value.digitChar

theorem toNat_toLower (character : Char) :
    character.toLower.toNat =
      if 65 ≤ character.toNat ∧ character.toNat ≤ 90 then character.toNat + 32
      else character.toNat := by
  unfold Char.toLower
  split
  · next upper =>
    have first : 65 ≤ character.toNat := upper.1
    have last : character.toNat ≤ 90 := upper.2
    rw [if_pos ⟨first, last⟩]
    change (character.val + 32).toNat = character.val.toNat + 32
    rw [UInt32.toNat_add]
    exact Nat.mod_eq_of_lt (Nat.lt_of_le_of_lt (Nat.add_le_add_right last 32) (by decide))
  · next lower => exact (if_neg fun upper => lower upper).symm

theorem toNat_toUpper (character : Char) :
    character.toUpper.toNat =
      if 97 ≤ character.toNat ∧ character.toNat ≤ 122 then character.toNat - 32
      else character.toNat := by
  have shift : ('A'.val - 'a'.val).toNat = 4294967264 := by decide
  unfold Char.toUpper
  split
  · next lower =>
    have first : 97 ≤ character.toNat := lower.1
    have last : character.toNat ≤ 122 := lower.2
    have raised : (character.val + ('A'.val - 'a'.val)).toNat =
        (character.toNat + 4294967264) % 4294967296 := by
      rw [UInt32.toNat_add, shift]
      rfl
    rw [if_pos ⟨first, last⟩]
    exact raised.trans (by omega)
  · next upper => exact (if_neg fun lower => upper lower).symm

theorem toLower_toUpper (character : Char) : character.toUpper.toLower = character.toLower := by
  rw [← Char.toNat_inj, toNat_toLower character.toUpper, toNat_toLower, toNat_toUpper]
  split_ifs <;> omega

theorem toNat_digitChar {value : Nat} (small : value < 16) :
    value.digitChar.toNat = if value < 10 then 48 + value else 87 + value := by
  revert value
  decide

theorem toLower_digitChar {value : Nat} (small : value < 16) :
    value.digitChar.toLower = value.digitChar := by
  rw [← Char.toNat_inj, toNat_toLower, toNat_digitChar small]
  split_ifs <;> omega

theorem digitValue?_eq_some_iff {base : Nat} (small : base ≤ 16) {character : Char} {value : Nat} :
    digitValue? base character = some value ↔ IsDigit base character value := by
  have decimal : character.isDigit = true ↔ 48 ≤ character.toNat ∧ character.toNat ≤ 57 :=
    Char.isDigit_iff_toNat
  have lower : ('a' ≤ character ∧ character ≤ 'f') ↔
      97 ≤ character.toNat ∧ character.toNat ≤ 102 := Iff.rfl
  have upper : ('A' ≤ character ∧ character ≤ 'F') ↔
      65 ≤ character.toNat ∧ character.toNat ≤ 70 := Iff.rfl
  unfold digitValue? IsDigit
  rw [Option.filter_eq_some_iff, decide_eq_true_eq, and_comm]
  refine and_congr_right fun bounded => ?_
  rw [← Char.toNat_inj, toNat_toLower, toNat_digitChar (Nat.lt_of_lt_of_le bounded small)]
  simp only [decimal, lower, upper]
  split_ifs <;> simp only [Option.some.injEq, false_iff] <;> omega

/-! ## Rows -/

/-- A nonempty row of digits, the most significant one first, and the number that it writes. -/
inductive Row (base : Nat) : List Char → Nat → Prop
  | single {character : Char} {value : Nat} (digit : IsDigit base character value) :
      Row base [character] value
  | snoc {row : List Char} {number : Nat} {character : Char} {value : Nat}
      (front : Row base row number) (digit : IsDigit base character value) :
      Row base (row ++ [character]) (number * base + value)

theorem read?_singleton (base : Nat) (character : Char) :
    read? base [character] = digitValue? base character := by
  simp [read?]

theorem read?_of_ne_nil (base : Nat) {row : List Char} (filled : row ≠ []) :
    read? base row = row.foldlM (fun value character =>
      (digitValue? base character).map fun digit => value * base + digit) 0 := by
  cases row with
  | nil => exact absurd rfl filled
  | cons first rest => rfl

/-- One more digit is read behind the number in front of it. -/
theorem read?_concat (base : Nat) {row : List Char} (filled : row ≠ []) (character : Char) :
    read? base (row ++ [character]) = (read? base row).bind fun number =>
      (digitValue? base character).map fun value => number * base + value := by
  rw [read?_of_ne_nil base filled,
    read?_of_ne_nil base (List.append_ne_nil_of_left_ne_nil filled _), List.foldlM_append]
  simp only [List.foldlM_cons, List.foldlM_nil, bind_pure]
  rfl

namespace Row

variable {base number : Nat} {row : List Char}

theorem ne_nil (writes : Row base row number) : row ≠ [] := by
  cases writes <;> simp

/-- Reading a row finds the number that it writes. -/
theorem read?_eq_some_iff (small : base ≤ 16) :
    read? base row = some number ↔ Row base row number := by
  constructor
  · intro found
    induction row using List.reverseRecOn generalizing number with
    | nil => cases found
    | append_singleton front last ih =>
        by_cases filled : front = []
        · obtain rfl := filled
          rw [List.nil_append, read?_singleton] at found
          exact .single ((digitValue?_eq_some_iff small).mp found)
        · rw [read?_concat base filled] at found
          obtain ⟨high, before, rest⟩ := Option.bind_eq_some_iff.mp found
          obtain ⟨value, digit, rfl⟩ := Option.map_eq_some_iff.mp rest
          exact .snoc (ih before) ((digitValue?_eq_some_iff small).mp digit)
  · intro writes
    induction writes with
    | single digit => rw [read?_singleton, digitValue?_eq_some_iff small |>.mpr digit]
    | snoc front digit ih =>
        rw [read?_concat base front.ne_nil, ih, Option.bind_some,
          digitValue?_eq_some_iff small |>.mpr digit, Option.map_some]

theorem unique (small : base ≤ 16) {other : Nat} (writes : Row base row number)
    (again : Row base row other) : number = other := by
  have left := (read?_eq_some_iff small).mpr writes
  have right := (read?_eq_some_iff small).mpr again
  exact Option.some.inj (left.symm.trans right)

theorem of_map_toLower {other : List Char} (writes : Row base row number)
    (same : other.map Char.toLower = row.map Char.toLower) : Row base other number := by
  induction writes generalizing other with
  | single digit =>
      obtain ⟨character, rfl, lower⟩ := List.map_eq_singleton_iff.mp same
      exact .single ⟨digit.1, lower.trans digit.2⟩
  | snoc front digit ih =>
      rw [List.map_append] at same
      obtain ⟨before, last, rfl, high, low⟩ := List.map_eq_append_iff.mp same
      obtain ⟨character, rfl, lower⟩ := List.map_eq_singleton_iff.mp low
      exact .snoc (ih high) ⟨digit.1, lower.trans digit.2⟩

theorem cons_zero (filled : 0 < base) (writes : Row base row number) :
    Row base ('0' :: row) number := by
  induction writes with
  | single digit =>
      have front : Row base ['0'] 0 := .single ⟨filled, rfl⟩
      simpa using front.snoc digit
  | snoc front digit ih => exact ih.snoc digit

theorem leftpad (filled : 0 < base) (writes : Row base row number) (width : Nat) :
    Row base (row.leftpad width '0') number := by
  rw [List.leftpad]
  induction width - row.length with
  | zero => exact writes
  | succ count ih => exact ih.cons_zero filled

theorem toDigits (positional : 1 < base) (small : base ≤ 16) (number : Nat) :
    Row base (Nat.toDigits base number) number := by
  have digit : ∀ value < base, IsDigit base value.digitChar value := fun value bounded =>
    ⟨bounded, toLower_digitChar (Nat.lt_of_lt_of_le bounded small)⟩
  induction number using Nat.strongRecOn with
  | ind number ih =>
      rcases Nat.lt_or_ge number base with single | large
      · rw [Nat.toDigits_of_lt_base single]
        exact .single (digit number single)
      · have smaller : number / base < number := Nat.div_lt_self (by omega) positional
        have last := digit (number % base) (Nat.mod_lt number (by omega))
        rw [Nat.toDigits_of_base_le positional large]
        have whole := (ih (number / base) smaller).snoc last
        rwa [Nat.div_add_mod' number base] at whole

theorem upperHex (number : Nat) : Row 16 (Numeral.upperHex number) number := by
  refine (toDigits (by decide) (by decide) number).of_map_toLower ?_
  rw [Numeral.upperHex, List.map_map]
  exact List.map_congr_left fun character _ => toLower_toUpper character

end Row

/-- The eight digits of a word determine it. -/
theorem word32Hex_injective : Function.Injective word32Hex := by
  intro word other same
  have row := (Row.upperHex word.toNat).leftpad (by decide) 8
  have again := (Row.upperHex other.toNat).leftpad (by decide) 8
  rw [String.ofList_injective same] at row
  exact UInt32.toNat_inj.mp (row.unique (by decide) again)

end Numeral
end LayoutRecovery
