import LayoutRecovery.Decimal.Shortest
import LayoutRecovery.Text.Search
import LayoutRecovery.Text.Blank

/-!
# Writing decimals

The two written forms of a floating-point number: positional, with as many zeros as its magnitude
asks for, and with an exponent of ten after the first digit.
-/

namespace LayoutRecovery
namespace Decimal

/-- The number `0.d₁d₂… * 10 ^ point`. -/
structure DigitRow where
  /-- The digits, without trailing zeros. -/
  digits : List Char
  /-- How many digits stand before the decimal point; negative if zeros follow it first. -/
  point : Int
  deriving DecidableEq

/-- The digits of a decimal and the place of its point. -/
def digitRow (decimal : Decimal) : DigitRow :=
  let written := Nat.toDigits 10 decimal.coefficient
  { digits := Text.dropEndWhile (· == '0') written
    point := decimal.exponent + written.length }

namespace DigitRow

/-- The positional form, without an exponent and without a point after the last digit. -/
def positional (row : DigitRow) : List Char :=
  if row.digits = [] then ['0']
  else if row.point ≤ 0 then
    ['0', '.'] ++ List.replicate (-row.point).toNat '0' ++ row.digits
  else
    let whole := row.point.toNat
    if row.digits.length ≤ whole then
      row.digits ++ List.replicate (whole - row.digits.length) '0'
    else row.digits.take whole ++ '.' :: row.digits.drop whole

/-- The form with one digit before the point and an upper-case exponent mark. -/
def scientific (row : DigitRow) : List Char :=
  match row.digits with
  | [] => ['0', 'E', '0']
  | [digit] => digit :: 'E' :: (toString (row.point - 1)).toList
  | digit :: rest => digit :: '.' :: rest ++ 'E' :: (toString (row.point - 1)).toList

end DigitRow
end Decimal

/-- How a finite magnitude is written once its digits are chosen. -/
abbrev Decimal.Style := Decimal.DigitRow → List Char

namespace BinaryFormat

/-- The shortest text of a bit pattern in the given style. -/
def write (format : BinaryFormat) (style : Decimal.Style) (bits : Nat) : String :=
  match format.decode bits with
  | .nan => "NaN"
  | .infinite negative => if negative then "-inf" else "inf"
  | .finite negative significand exponent =>
      let magnitude :=
        if significand = 0 then style ⟨[], 0⟩
        else style (Decimal.Span.ofFinite format significand exponent).shortest.digitRow
      String.ofList (if negative then '-' :: magnitude else magnitude)

end BinaryFormat
end LayoutRecovery
