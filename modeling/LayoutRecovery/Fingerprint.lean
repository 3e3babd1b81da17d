import LayoutRecovery.Numeral

/-!
# Fingerprints

A 32-bit hash of text: for every byte the hash so far is multiplied by a fixed odd number and then
combined with the byte.  A text is hashed by the low bytes of its code points.
-/

namespace LayoutRecovery
namespace Fingerprint

/-- The multiplier of the hash. -/
def multiplier : UInt32 := 0x811C9DC5

/-- The hash after one more byte. -/
def absorb (hash : UInt32) (byte : UInt8) : UInt32 :=
  hash * multiplier ^^^ byte.toUInt32

/-- The hash of a row of bytes. -/
def ofBytes (bytes : List UInt8) : UInt32 :=
  bytes.foldl absorb 0

/-- The hash of a text. -/
def ofText (text : String) : UInt32 :=
  ofBytes (text.toList.map fun character => character.toNat.toUInt8)

end Fingerprint
end LayoutRecovery
