import LayoutRecovery.Literal.Real
import LayoutRecovery.Reading.Basic

/-!
# Scalar assignments

A write `*(TYPE *)(v1 + N) = VALUE;` declares one member, or two when a 64-bit literal holds a
floating-point number in its low half.  The type follows from the width of the cast and, for 32 and
64 bits, from whether the low half of the literal makes a plausible floating-point number.
-/

namespace LayoutRecovery

/-- The parts of an assignment through a pointer. -/
structure Assignment where
  /-- Where it writes. -/
  target : Addend
  /-- How much it writes. -/
  width : CastWidth
  /-- What it writes, never empty. -/
  value : String
  deriving DecidableEq

namespace Assignment

/-- The parts of a line around its first ` = `, if a value stands behind it. -/
def read? (line : List Char) : Option Assignment :=
  (Text.cut " = ".toList line).bind fun (target, source) =>
    let value := Text.trim (Text.beforeLast ';' source)
    if value = [] then none
    else some
      { target := Addend.ofText target
        width := CastWidth.detect target
        value := String.ofList value }

/-- The one member that takes the whole write. -/
def single (assignment : Assignment) (stem : String) (type : MemberType) (bytes : Nat)
    (finding : String) : Member :=
  (Member.atAddend stem assignment.target type (Size.clamp bytes)).withDetail
    ("origin: " ++ assignment.value ++ ", " ++ finding)

/-- What the trailing comments of packed numbers say about them. -/
def packedComment : String := "two packed floats in a QWORD"

/-- The place four bytes behind an addend. -/
def secondHalf : Addend → Addend
  | .literal offset => .literal (offset.advance 4)
  | .symbolic token => .symbolic (token ++ "_plus4")

/-- The two floating-point members of a 64-bit literal whose low half reads as one. -/
def packed (assignment : Assignment) (stem : String) (literal : IntLiteral) (low : String) :
    List Member :=
  let first := assignment.single stem .float 4
    ("parsed: " ++ low ++ ", comment: " ++ packedComment ++ " (1/2 of 2)")
  let undecoded :=
    if literal.high = 0 then ""
    else ", high dword 0x" ++ String.ofList (Numeral.upperHex literal.high.toNat)
      ++ " not decoded"
  let half := { assignment with target := secondHalf assignment.target }
  let second := half.single stem .float 4
    ("parsed: 0, comment: " ++ packedComment ++ " (2/2 of 2)" ++ undecoded)
  match half.target with
  | .literal _ => [first, second]
  | .symbolic _ => [first, second.withNote "placed 4 bytes after the first half"]

/-- The members of a 32-bit or 64-bit write of an integer literal. -/
def numeric (assignment : Assignment) (stem : String) (literal : IntLiteral) : List Member :=
  let wide := literal.wide || decide (assignment.width = .bits64)
  match SingleText.ofBits literal.low with
  | .exponential _ =>
      let type := if wide then MemberType.long else MemberType.int
      [assignment.single stem type (if wide then 8 else 4) ("parsed: " ++ literal.text)]
  | .plain low =>
      if wide then
        if literal.value = 0 ∧ assignment.target.offset.isAligned 8 then
          [assignment.single stem .long 8
            "parsed: 0, comment: ambiguous: long, two floats, or two ints"]
        else assignment.packed stem literal low
      else [assignment.single stem .float 4 ("parsed: " ++ low)]

/-- The members of a write of an integer literal. -/
def ofInteger (assignment : Assignment) (stem : String) (literal : IntLiteral) : List Member :=
  match assignment.width with
  | .bits16 => [assignment.single stem .short 2 ("parsed: " ++ literal.text)]
  | .bits8 => [assignment.single stem .bool 1 ("parsed: " ++ literal.text)]
  | .bits128 =>
      [assignment.single stem .bytes 16 "comment: OWORD write, 16 bytes set at once"]
  | .bits32 => assignment.numeric stem literal
  | .bits64 => assignment.numeric stem literal
  | .unknown => assignment.numeric stem literal

/-- The member of a write of a floating-point literal. -/
def ofReal (assignment : Assignment) (stem : String) (number : Double) : Member :=
  let wide := assignment.width = .bits64
  assignment.single stem (if wide then .double else .float) (if wide then 8 else 4)
    ("parsed: " ++ number.text)

/-- How many bytes a write of an undecoded value declares. -/
def plainBytes : CastWidth → Nat
  | .bits128 => 4
  | .unknown => 4
  | width => width.bytes

/-- The member of a write of any other value. -/
def ofExpression (assignment : Assignment) (stem : String) : Member :=
  assignment.single stem (MemberType.integerFor assignment.width) (plainBytes assignment.width)
    "comment: value is not a literal"

/-- The members of an assignment. -/
def members (assignment : Assignment) (stem : String) : List Member :=
  match IntLiteral.read? assignment.value.toList with
  | some literal => assignment.ofInteger stem literal
  | none =>
      match Double.read? assignment.value.toList with
      | some number => [assignment.ofReal stem number]
      | none => [assignment.ofExpression stem]

/-- Whether the type of an integer depends on the number it makes as a floating-point pattern. -/
def weighsPattern : CastWidth → Bool
  | .bits32 => true
  | .bits64 => true
  | .unknown => true
  | .bits8 => false
  | .bits16 => false
  | .bits128 => false

/-- The log records about the decoding of an assignment. -/
def log (assignment : Assignment) : List LogRecord :=
  match IntLiteral.read? assignment.value.toList with
  | some literal =>
      match SingleText.ofBits literal.low with
      | .exponential pattern =>
          if weighsPattern assignment.width then
            [LogRecord.debug (assignment.value ++ " is a poor float (" ++ pattern
              ++ "), keeping the integer")]
          else []
      | .plain _ => []
  | none =>
      match Double.read? assignment.value.toList with
      | some _ => []
      | none =>
          [LogRecord.debug ("value `" ++ assignment.value
            ++ "` is not a literal, typing by cast width")]

end Assignment
end LayoutRecovery
