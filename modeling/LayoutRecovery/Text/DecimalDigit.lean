import LayoutRecovery.Text.Blank

/-!
# Decimal digits of all scripts

The characters of general category `Nd` in Unicode 16.  Every script's digits are ten consecutive
code points, so the table lists the zeros.
-/

namespace LayoutRecovery
namespace Text

/-- The code points of the digit zero outside ASCII. -/
def digitZeros : List Nat :=
  [0x660, 0x6F0, 0x7C0, 0x966, 0x9E6, 0xA66, 0xAE6, 0xB66, 0xBE6, 0xC66, 0xCE6, 0xD66, 0xDE6, 0xE50,
    0xED0, 0xF20, 0x1040, 0x1090, 0x17E0, 0x1810, 0x1946, 0x19D0, 0x1A80, 0x1A90, 0x1B50, 0x1BB0,
    0x1C40, 0x1C50, 0xA620, 0xA8D0, 0xA900, 0xA9D0, 0xA9F0, 0xAA50, 0xABF0, 0xFF10, 0x104A0,
    0x10D30, 0x10D40, 0x11066, 0x110F0, 0x11136, 0x111D0, 0x112F0, 0x11450, 0x114D0, 0x11650,
    0x116C0, 0x116D0, 0x116DA, 0x11730, 0x118E0, 0x11950, 0x11BF0, 0x11C50, 0x11D50, 0x11DA0,
    0x11F50, 0x16130, 0x16A60, 0x16AC0, 0x16B50, 0x16D70, 0x1CCF0, 0x1D7CE, 0x1D7D8, 0x1D7E2,
    0x1D7EC, 0x1D7F6, 0x1E140, 0x1E2F0, 0x1E4F0, 0x1E5F1, 0x1E950, 0x1FBF0]

/-- Whether a character is a decimal digit of some script. -/
def isDecimalDigit (character : Char) : Bool :=
  if character.toNat < 0x80 then character.isDigit
  else digitZeros.any fun first =>
    decide (first ≤ character.toNat) && decide (character.toNat < first + 10)

theorem isDecimalDigit_of_isDigit {character : Char} (digit : character.isDigit = true) :
    isDecimalDigit character = true := by
  have bound : character.toNat < 0x80 := by
    simp only [Char.isDigit, Bool.and_eq_true, decide_eq_true_eq, ge_iff_le] at digit
    have upper := UInt32.le_iff_toNat_le.mp digit.2
    simp only [Char.toNat]
    change character.val.toNat ≤ 57 at upper
    omega
  rw [isDecimalDigit, if_pos bound, digit]

theorem isDecimalDigit_of_isBlank {character : Char} (blank : isBlank character = true) :
    isDecimalDigit character = false := by
  have apart : ∀ range ∈ blankRanges, (range.2 < 48 ∨ 57 < range.1) ∧
      ∀ start ∈ digitZeros, range.2 < start ∨ start + 10 ≤ range.1 := by decide
  obtain ⟨⟨first, last⟩, listed, inside⟩ := List.any_eq_true.mp blank
  simp only [Bool.and_eq_true, decide_eq_true_eq] at inside
  obtain ⟨ascii, scripts⟩ := apart _ listed
  unfold isDecimalDigit
  split
  · simp only [Char.isDigit, Bool.and_eq_false_iff, decide_eq_false_iff_not, ge_iff_le,
      UInt32.le_iff_toNat_le]
    change ¬ 48 ≤ character.toNat ∨ ¬ character.toNat ≤ 57
    omega
  · rw [List.any_eq_false]
    intro start known
    have side := scripts start known
    simp only [Bool.and_eq_true, decide_eq_true_eq, not_and, Nat.not_lt]
    omega

end Text
end LayoutRecovery
