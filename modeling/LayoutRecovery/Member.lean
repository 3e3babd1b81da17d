import LayoutRecovery.CastWidth
import LayoutRecovery.Offset
import LayoutRecovery.Size

/-!
# Member declarations

One declared member of the generated class: its name, type, place and size, together with the
comments that accompany it.
-/

namespace LayoutRecovery

/-- The type of a declared member. -/
inductive MemberType where
  /-- One byte. -/
  | bool
  /-- Two bytes. -/
  | short
  /-- Four bytes. -/
  | int
  /-- Eight bytes. -/
  | long
  /-- A 32-bit floating-point number. -/
  | float
  /-- A 64-bit floating-point number. -/
  | double
  /-- Text of a fixed size. -/
  | string
  /-- Bytes without further structure. -/
  | bytes
  /-- A type declared elsewhere. -/
  | named (name : String)
  deriving DecidableEq

namespace MemberType

/-- The type as it is written in a declaration. -/
def keyword : MemberType → String
  | bool => "bool"
  | short => "short"
  | int => "int"
  | long => "long"
  | float => "float"
  | double => "double"
  | string => "string"
  | bytes => "byte[]"
  | named name => name

/-- The integer type for a value of some width that cannot be decoded. -/
def integerFor : CastWidth → MemberType
  | .bits8 => bool
  | .bits16 => short
  | .bits64 => long
  | .bits32 => int
  | .bits128 => int
  | .unknown => int

end MemberType

/-- One declared member. -/
structure Member where
  /-- Name of the member. -/
  name : String
  /-- Where the member starts. -/
  offset : Offset
  /-- Type of the member. -/
  type : MemberType
  /-- How many bytes the member takes. -/
  size : Size
  /-- Whether the member only fills space. -/
  ignored : Bool := false
  /-- What is written for the size in the trailing comment, if not the number of bytes. -/
  sizeLabel : Option String := none
  /-- Comment lines above the declaration. -/
  notes : List String := []
  /-- End of the trailing comment. -/
  detail : Option String := none
  deriving DecidableEq

namespace Member

/-- The position after the last byte, as an integer. -/
def limit (member : Member) : Int :=
  member.offset.toInt + member.size.toNat

/-- A member with one more comment line. -/
def withNote (member : Member) (note : String) : Member :=
  { member with notes := member.notes ++ [note] }

/-- A comment line inside the class. -/
def commentLine (text : String) : String :=
  "\t\t// " ++ text ++ "\n"

/-- The attribute line with the size and whether the member is ignored. -/
def sizeLine (member : Member) : String :=
  "\t\t[NMS(Size = " ++ member.size.hex ++ ", Ignore = "
    ++ (if member.ignored then "true" else "false") ++ ")]\n"

/-- The declaration line with its trailing comment. -/
def declarationLine (member : Member) : String :=
  "\t\tpublic " ++ member.type.keyword ++ " " ++ member.name ++ ";\t\t// offset: "
    ++ member.offset.text ++ ", sz: " ++ member.sizeLabel.getD member.size.text
    ++ (match member.detail with
      | some detail => ", " ++ detail
      | none => "")
    ++ "\n"

/-- The comment lines, the attribute and the declaration. -/
def render (member : Member) : String :=
  String.join (member.notes.map commentLine) ++ member.sizeLine ++ member.declarationLine

end Member
end LayoutRecovery
