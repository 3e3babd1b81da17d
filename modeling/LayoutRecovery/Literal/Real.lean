import LayoutRecovery.Decimal.Layout
import LayoutRecovery.Numeral

/-!
# Floating-point literals

Decimal literals with a point or an exponent and an optional `f` suffix are read into the nearest
64-bit floating-point number.  The same numbers, and 32-bit patterns taken from integer literals,
are written with the fewest digits that read back.
-/

namespace LayoutRecovery

/-- A decimal literal before it is rounded. -/
structure RealNumeral where
  /-- Whether the literal starts with a minus sign. -/
  negative : Bool
  /-- Its magnitude. -/
  magnitude : Decimal
  deriving DecidableEq

namespace RealNumeral

/-- A sign at the start of a text, and what follows it. -/
def sign : List Char → Bool × List Char
  | '-' :: rest => (true, rest)
  | '+' :: rest => (false, rest)
  | rest => (false, rest)

/-- The exponent that ends a literal: nothing, or `e` with a signed row of digits. -/
def exponent? : List Char → Option Int
  | [] => some 0
  | mark :: rest =>
      if mark = 'e' ∨ mark = 'E' then
        let (negative, digits) := sign rest
        (Numeral.read? 10 digits).map fun value => if negative then -value else value
      else none

/-- Digits after a decimal point at the start of a text, and what follows them. -/
def fraction : List Char → List Char × List Char
  | '.' :: rest => (rest.takeWhile Char.isDigit, rest.dropWhile Char.isDigit)
  | rest => ([], rest)

/-- Reads a literal that makes up a whole text: digits with at most one point, then an exponent. -/
def read? (text : List Char) : Option RealNumeral :=
  let (negative, body) := sign text
  let whole := body.takeWhile Char.isDigit
  let (fractional, rest) := fraction (body.dropWhile Char.isDigit)
  (Numeral.read? 10 (whole ++ fractional)).bind fun coefficient =>
    (exponent? rest).map fun exponent =>
      { negative, magnitude := { coefficient, exponent := exponent - fractional.length } }

end RealNumeral

/-- A 64-bit floating-point number. -/
structure Double where
  /-- Its bit pattern. -/
  bits : UInt64
  deriving DecidableEq

namespace Double

/--
The pattern nearest to a decimal.  Decimals of more than 400 digits before the point, or as many
zeros after it, are beyond the format and need no arithmetic.
-/
def magnitudeBits (magnitude : Decimal) : Nat :=
  let size := (Nat.toDigits 10 magnitude.coefficient).length + magnitude.exponent
  if magnitude.coefficient = 0 ∨ size < -400 then 0
  else if 400 < size then BinaryFormat.binary64.infinityBits
  else
    let (upper, lower) := Decimal.powerOfTen magnitude.exponent
    BinaryFormat.binary64.round (magnitude.coefficient * upper) lower

/-- The number nearest to a literal. -/
def ofNumeral (numeral : RealNumeral) : Double :=
  let sign := if numeral.negative then BinaryFormat.binary64.signBit else 0
  ⟨UInt64.ofNat (sign + magnitudeBits numeral.magnitude)⟩

/-- Reads a literal with a point or an exponent; blanks at its ends and an `f` are left out. -/
def read? (text : List Char) : Option Double :=
  let token := Text.trim text
  let body := ((Text.before? ['f'] token).or (Text.before? ['F'] token)).getD token
  let marked := body.contains '.' || body.contains 'e' || body.contains 'E'
  if marked && (Text.after? ['0', 'x'] body).isNone then (RealNumeral.read? body).map ofNumeral
  else none

/-- The number in positional form. -/
def text (number : Double) : String :=
  BinaryFormat.binary64.write Decimal.DigitRow.positional number.bits.toNat

end Double

/-- The text of a 32-bit pattern read as a floating-point number. -/
inductive SingleText where
  /-- A magnitude that is written without an exponent. -/
  | plain (text : String)
  /-- A number that needs an exponent, or none at all: the pattern is hardly meant as one. -/
  | exponential (text : String)
  deriving DecidableEq

namespace SingleText

/-- The pattern of the 32-bit number nearest to `0.00001`. -/
def leastPlain : Nat := 0x3727C5AC

/-- The pattern of the 32-bit number `10000000`. -/
def plainLimit : Nat := 0x4B189680

/-- Whether a pattern is zero or has a magnitude from `0.00001` up to, not including, `10000000`. -/
def isModerate (bits : UInt32) : Bool :=
  let magnitude := bits.toNat % BinaryFormat.binary32.signBit
  decide (magnitude = 0) || (decide (leastPlain ≤ magnitude) && decide (magnitude < plainLimit))

/-- The text of a pattern. -/
def ofBits (bits : UInt32) : SingleText :=
  if isModerate bits then
    plain (BinaryFormat.binary32.write Decimal.DigitRow.positional bits.toNat)
  else exponential (BinaryFormat.binary32.write Decimal.DigitRow.scientific bits.toNat)

/-- The text itself. -/
def text : SingleText → String
  | plain text => text
  | exponential text => text

/-- Whether the text has no exponent. -/
def isPlain : SingleText → Bool
  | plain _ => true
  | exponential _ => false

end SingleText
end LayoutRecovery
