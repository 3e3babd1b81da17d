import LayoutRecovery.Numeral

/-!
# Byte offsets

Positions in the structure under reconstruction.  They are signed 64-bit numbers: addends may be
negative, and the arithmetic on them either clamps to the representable range or wraps around it.
Every operation is described by its effect on the integer value.
-/

namespace LayoutRecovery

/-- A signed byte position relative to the start of the structure. -/
@[ext]
structure Offset where
  /-- The position as a 64-bit word. -/
  value : Int64
  deriving DecidableEq, Inhabited

namespace Offset

/-- The position as an integer. -/
def toInt (offset : Offset) : Int :=
  offset.value.toInt

/-- The least position. -/
def minimum : Int := -0x8000000000000000

/-- The greatest position. -/
def maximum : Int := 0x7FFFFFFFFFFFFFFF

/-- The position congruent to an integer modulo `2 ^ 64`. -/
def wrap (position : Int) : Offset :=
  ⟨Int64.ofInt position⟩

/-- The representable position nearest to an integer. -/
def clamp (position : Int) : Offset :=
  wrap (max minimum (min position maximum))

/-- The start of the structure. -/
def start : Offset := ⟨0⟩

theorem minimum_le_toInt (offset : Offset) : minimum ≤ offset.toInt := by
  have bound := offset.value.le_toInt
  simpa [minimum, toInt] using bound

theorem toInt_le_maximum (offset : Offset) : offset.toInt ≤ maximum := by
  have bound := offset.value.toInt_lt
  simp only [maximum, toInt]
  omega

theorem toInt_injective {left right : Offset} (same : left.toInt = right.toInt) : left = right :=
  Offset.ext (Int64.toInt_inj.mp same)

theorem toInt_wrap (position : Int) : (wrap position).toInt = position.bmod 0x10000000000000000 :=
  Int64.toInt_ofInt

theorem toInt_wrap_of_mem {position : Int} (lower : minimum ≤ position)
    (upper : position ≤ maximum) : (wrap position).toInt = position := by
  simp only [minimum, maximum] at lower upper
  rw [toInt_wrap, Int.bmod_eq_of_le] <;> omega

theorem toInt_clamp (position : Int) :
    (clamp position).toInt = max minimum (min position maximum) := by
  refine toInt_wrap_of_mem ?_ ?_ <;> simp only [minimum, maximum] <;> omega

@[simp]
theorem wrap_toInt (offset : Offset) : wrap offset.toInt = offset :=
  toInt_injective (toInt_wrap_of_mem offset.minimum_le_toInt offset.toInt_le_maximum)

/-- The position some bytes further on, clamped. -/
def advance (offset : Offset) (bytes : Int) : Offset :=
  clamp (offset.toInt + bytes)

/-- Whether the position is a multiple of an alignment. -/
def isAligned (offset : Offset) (alignment : Int) : Bool :=
  decide (alignment ∣ offset.toInt)

/-- The position in decimal. -/
def text (offset : Offset) : String :=
  toString offset.toInt

/-- The position as it ends a member's name: upper-case hexadecimal, negative ones after `neg`. -/
def suffix (offset : Offset) : String :=
  let digits := String.ofList (Numeral.upperHex offset.toInt.natAbs)
  if offset.toInt < 0 then "neg" ++ digits else digits

end Offset
end LayoutRecovery
