import LayoutRecovery.Numeral

/-!
# Sizes in bytes

Sizes are unsigned 64-bit numbers.  Their sums are clamped to the greatest size; read as signed
words, sizes from `2 ^ 63` on are negative.
-/

namespace LayoutRecovery

/-- A number of bytes. -/
@[ext]
structure Size where
  /-- The number as a 64-bit word. -/
  bytes : UInt64
  deriving DecidableEq, Inhabited

namespace Size

/-- The number of bytes as a natural number. -/
def toNat (size : Size) : Nat :=
  size.bytes.toNat

/-- The number of bytes with its highest bit read as a sign. -/
def signed (size : Size) : Int :=
  (size.toNat : Int).bmod 0x10000000000000000

/-- No bytes. -/
def zero : Size := ⟨0⟩

/-- The greatest size. -/
def maximum : Nat := 0xFFFFFFFFFFFFFFFF

/-- The representable size nearest to a natural number. -/
def clamp (bytes : Nat) : Size :=
  ⟨UInt64.ofNat (min bytes maximum)⟩

theorem toNat_le_maximum (size : Size) : size.toNat ≤ maximum := by
  have bound := size.bytes.toNat_lt
  simp only [toNat, maximum]
  omega

theorem toNat_injective {left right : Size} (same : left.toNat = right.toNat) : left = right :=
  Size.ext (UInt64.toNat_inj.mp same)

theorem toNat_clamp (bytes : Nat) : (clamp bytes).toNat = min bytes maximum := by
  simp only [clamp, toNat, UInt64.toNat_ofNat', maximum]
  omega

@[simp]
theorem toNat_zero : zero.toNat = 0 := rfl

theorem signed_of_lt {size : Size} (small : size.toNat < 0x8000000000000000) :
    size.signed = size.toNat :=
  Int.bmod_eq_of_le (by omega) (by omega)

/-- A size grown by some bytes, clamped. -/
def grow (size : Size) (bytes : Nat) : Size :=
  clamp (size.toNat + bytes)

/-- Growing by parts is growing by their sum, also where it is clamped. -/
theorem grow_grow (size : Size) (first second : Nat) :
    (size.grow first).grow second = size.grow (first + second) := by
  refine toNat_injective ?_
  simp only [grow, toNat_clamp]
  omega

/-- The number of bytes in decimal. -/
def text (size : Size) : String :=
  toString size.toNat

/-- The number of bytes in upper-case hexadecimal after `0x`. -/
def hex (size : Size) : String :=
  "0x" ++ String.ofList (Numeral.upperHex size.toNat)

end Size
end LayoutRecovery
