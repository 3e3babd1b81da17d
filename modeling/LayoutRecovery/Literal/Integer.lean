import LayoutRecovery.Numeral
import LayoutRecovery.Text.Blank

/-!
# Integer literals

Decimal and `0x` literals with an optional minus sign and an optional width suffix, as decompilers
print them: `16`, `-1`, `0x40000000i64`, `5u`.  Letters count in either case, and the value is
reduced into a signed 64-bit word.
-/

namespace LayoutRecovery

/-- An integer literal in source text. -/
structure IntLiteral where
  /-- The value as a signed word. -/
  value : Int64
  /-- Whether a suffix declares 64 bits. -/
  wide : Bool
  deriving DecidableEq

namespace IntLiteral

/-- The width suffixes, in the order in which they are tried. -/
def suffixes : List String :=
  ["ui64", "i64", "ull", "ll", "ul", "u", "l"]

/-- A literal body without the first suffix that fits. -/
def dropSuffix (body : List Char) : List Char :=
  (suffixes.findSome? fun suffix => Text.before? suffix.toList body).getD body

/-- The magnitude that lower-case digits write: hexadecimal after `0x`, decimal otherwise. -/
def magnitude? (digits : List Char) : Option UInt64 :=
  match Text.after? ['0', 'x'] digits with
  | some hexadecimal => Numeral.readPlusWord? 16 hexadecimal
  | none => Numeral.readWord? 10 digits

/-- Reads a literal that makes up a whole text, blanks at its ends aside. -/
def read? (text : List Char) : Option IntLiteral :=
  let token := Text.trim text
  let negated := Text.after? ['-'] token
  let body := (negated.map Text.trimStart).getD token
  let lower := body.map Char.toLower
  (magnitude? (dropSuffix lower)).map fun magnitude =>
    let signed : Int := if negated.isSome then -magnitude.toNat else magnitude.toNat
    { value := Int64.ofInt signed, wide := (Text.before? "i64".toList lower).isSome }

/-- The low half of the value. -/
def low (literal : IntLiteral) : UInt32 :=
  literal.value.toUInt64.toUInt32

/-- The high half of the value. -/
def high (literal : IntLiteral) : UInt32 :=
  (literal.value.toUInt64 >>> 32).toUInt32

/-- The value in decimal. -/
def text (literal : IntLiteral) : String :=
  toString literal.value.toInt

end IntLiteral
end LayoutRecovery
