import LayoutRecovery.BinaryFormat

/-!
# Shortest decimals

The decimal with the fewest digits that a binary format reads back as a given number.  The reals
that round to the number form an interval; for one digit, two digits and so on, the two decimals of
that many digits around the number are tried, and of two that lie in the interval the nearer is
taken, the greater one on a tie.
-/

namespace LayoutRecovery

/-- The number `coefficient * 10 ^ exponent`. -/
structure Decimal where
  /-- All digits as one number. -/
  coefficient : Nat
  /-- Power of ten of the last digit. -/
  exponent : Int
  deriving DecidableEq

namespace Decimal

/-- A power of ten as a quotient of two natural numbers, one of which is 1. -/
def powerOfTen (exponent : Int) : Nat × Nat :=
  (Nat.pow 10 exponent.toNat, Nat.pow 10 (-exponent).toNat)

/-- The reals that a format rounds to one positive number, over a common denominator. -/
structure Span where
  /-- Lower end. -/
  low : Nat
  /-- The number itself. -/
  value : Nat
  /-- Upper end. -/
  high : Nat
  /-- Denominator of the other three. -/
  denominator : Nat
  /-- Whether the two ends round to the number as well. -/
  closed : Bool

namespace Span

/--
The span of the number `significand * 2 ^ exponent`: half a step to either side, and a quarter
below a power of two, where the steps below are half as wide.
-/
def ofFinite (format : BinaryFormat) (significand : Nat) (exponent : Int) : Span :=
  let scale := 1 <<< (exponent - 2).toNat
  let narrow := significand = 1 <<< format.fractionBits ∧ format.leastExponent < exponent
  { low := (4 * significand - if narrow then 1 else 2) * scale
    value := 4 * significand * scale
    high := (4 * significand + 2) * scale
    denominator := 1 <<< (2 - exponent).toNat
    closed := significand % 2 = 0 }

/-- Whether a decimal lies in the span. -/
def holds (span : Span) (decimal : Decimal) : Bool :=
  let (upper, lower) := powerOfTen decimal.exponent
  let position := decimal.coefficient * upper * span.denominator
  if span.closed then
    decide (span.low * lower ≤ position) && decide (position ≤ span.high * lower)
  else
    decide (span.low * lower < position) && decide (position < span.high * lower)

/-- The floor of the decimal logarithm of the number. -/
def magnitude (span : Span) : Int :=
  if span.denominator ≤ span.value then
    ((Nat.toDigits 10 (span.value / span.denominator)).length : Int) - 1
  else
    -((Nat.toDigits 10 ((span.denominator - 1) / span.value)).length : Int)

/-- The greatest decimal with `count` digits that does not exceed the number. -/
def below (span : Span) (count : Nat) : Decimal :=
  let exponent := span.magnitude + 1 - count
  let (upper, lower) := powerOfTen exponent
  { coefficient := span.value * lower / (span.denominator * upper), exponent }

/-- Whether the number is nearer to a decimal than to the next one on the same grid. -/
def isNearer (span : Span) (decimal : Decimal) : Bool :=
  let (upper, lower) := powerOfTen decimal.exponent
  decide (2 * span.value * lower < (2 * decimal.coefficient + 1) * upper * span.denominator)

/-- The best decimal with `count` digits that reads back as the number. -/
def candidate? (span : Span) (count : Nat) : Option Decimal :=
  let floor := span.below count
  let next : Decimal := { floor with coefficient := floor.coefficient + 1 }
  match span.holds floor, span.holds next with
  | true, true => some (if span.isNearer floor then floor else next)
  | true, false => some floor
  | false, true => some next
  | false, false => none

/-- The best decimal with at least `count` digits; `more` is how many more may be tried. -/
def shortestFrom (span : Span) : (more count : Nat) → Decimal
  | 0, count => span.below count
  | more + 1, count => (span.candidate? count).getD (span.shortestFrom more (count + 1))

/-- The decimal with the fewest digits that reads back as the number; 17 digits are enough. -/
def shortest (span : Span) : Decimal :=
  span.shortestFrom 17 1

end Span
end Decimal
end LayoutRecovery
