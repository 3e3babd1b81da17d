/-!
# Binary floating-point formats

A format is given by the widths of its two fields.  A bit pattern is decoded into the number
`significand * 2 ^ exponent` that it stands for, and a positive rational is rounded to the nearest
pattern, a tie going to the even one.
-/

namespace LayoutRecovery

/-- A binary interchange format: a sign bit, an exponent field and a fraction field. -/
structure BinaryFormat where
  /-- Width of the fraction field. -/
  fractionBits : Nat
  /-- Width of the exponent field. -/
  exponentBits : Nat
  deriving DecidableEq

/-- What a bit pattern of a format stands for. -/
inductive Datum where
  /-- Not a number. -/
  | nan
  /-- An infinity. -/
  | infinite (negative : Bool)
  /-- The number `significand * 2 ^ exponent`, negated if so marked. -/
  | finite (negative : Bool) (significand : Nat) (exponent : Int)
  deriving DecidableEq

namespace BinaryFormat

/-- The 32-bit format. -/
def binary32 : BinaryFormat := ⟨23, 8⟩

/-- The 64-bit format. -/
def binary64 : BinaryFormat := ⟨52, 11⟩

/-- The exponent of the smallest positive number. -/
def leastExponent (format : BinaryFormat) : Int :=
  2 - (1 <<< (format.exponentBits - 1) : Nat) - format.fractionBits

/-- The pattern of positive infinity. -/
def infinityBits (format : BinaryFormat) : Nat :=
  (1 <<< format.exponentBits - 1) <<< format.fractionBits

/-- The sign bit on its own. -/
def signBit (format : BinaryFormat) : Nat :=
  1 <<< (format.exponentBits + format.fractionBits)

/-- What a bit pattern stands for. -/
def decode (format : BinaryFormat) (bits : Nat) : Datum :=
  let hidden := 1 <<< format.fractionBits
  let fraction := bits % hidden
  let field := bits / hidden % 1 <<< format.exponentBits
  let negative := decide (bits / format.signBit % 2 = 1)
  if field = 1 <<< format.exponentBits - 1 then
    if fraction = 0 then .infinite negative else .nan
  else if field = 0 then .finite negative fraction format.leastExponent
  else .finite negative (hidden + fraction) (format.leastExponent + (field - 1 : Nat))

/-- A quotient rounded to the nearest natural number, a tie going to the even one. -/
def roundQuotient (numerator denominator : Nat) : Nat :=
  let floor := numerator / denominator
  let remainder := numerator % denominator
  if 2 * remainder < denominator then floor
  else if denominator < 2 * remainder then floor + 1
  else floor + floor % 2

/-- The floor of the binary logarithm of a positive quotient. -/
def binaryMagnitude (numerator denominator : Nat) : Int :=
  if denominator ≤ numerator then Nat.log2 (numerator / denominator)
  else Int.negSucc (Nat.log2 ((denominator - 1) / numerator))

/--
The pattern nearest to a nonnegative quotient.  Patterns of one sign are ordered as their numbers,
so the steps below the exponent field and the significand add up to the pattern, also when rounding
carries into the next exponent.  What exceeds the largest number becomes infinity.
-/
def round (format : BinaryFormat) (numerator denominator : Nat) : Nat :=
  if numerator = 0 then 0
  else
    let exponent :=
      max format.leastExponent (binaryMagnitude numerator denominator - format.fractionBits)
    let significand :=
      roundQuotient (numerator <<< (-exponent).toNat) (denominator <<< exponent.toNat)
    let steps := (exponent - format.leastExponent).toNat
    min format.infinityBits (steps <<< format.fractionBits + significand)

end BinaryFormat
end LayoutRecovery
