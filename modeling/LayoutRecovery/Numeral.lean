import LayoutRecovery.Text.Search

/-!
# Numerals

Reading a natural number from its digits in a base up to sixteen, reading it into a 64-bit word, and
writing it in upper-case hexadecimal.
-/

namespace LayoutRecovery
namespace Numeral

/-- The value of a digit in some base up to sixteen; letters count in either case. -/
def digitValue? (base : Nat) (character : Char) : Option Nat :=
  let value :=
    if character.isDigit then some (character.toNat - 0x30)
    else if 'a' ≤ character ∧ character ≤ 'f' then some (character.toNat - 0x57)
    else if 'A' ≤ character ∧ character ≤ 'F' then some (character.toNat - 0x37)
    else none
  value.filter fun digit => decide (digit < base)

/-- The number that a nonempty row of digits writes, the most significant digit first. -/
def read? (base : Nat) : List Char → Option Nat
  | [] => none
  | digits => digits.foldlM (fun value character =>
      (digitValue? base character).map fun digit => value * base + digit) 0

/-- The 64-bit word that a row of digits writes, if it fits. -/
def readWord? (base : Nat) (digits : List Char) : Option UInt64 :=
  (read? base digits).bind fun value =>
    if fits : value < UInt64.size then some (UInt64.ofNatLT value fits) else none

/-- The 64-bit word that a row of digits writes after at most one plus sign. -/
def readPlusWord? (base : Nat) (numeral : List Char) : Option UInt64 :=
  readWord? base ((Text.after? ['+'] numeral).getD numeral)

/-- The upper-case hexadecimal digits of a number, without leading zeros. -/
def upperHex (number : Nat) : List Char :=
  (Nat.toDigits 16 number).map Char.toUpper

/-- The lower-case hexadecimal digits of a number, without leading zeros. -/
def lowerHex (number : Nat) : List Char :=
  Nat.toDigits 16 number

/-- The eight upper-case hexadecimal digits of a 32-bit word. -/
def word32Hex (word : UInt32) : String :=
  String.ofList ((upperHex word.toNat).leftpad 8 '0')

/-- The sixteen upper-case hexadecimal digits of a 64-bit word. -/
def word64Hex (word : UInt64) : String :=
  String.ofList ((upperHex word.toNat).leftpad 16 '0')

end Numeral
end LayoutRecovery
