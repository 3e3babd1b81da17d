/-!
# White space

The characters with the Unicode property `White_Space`, and the trimming and word splitting that go
by them.  Zero-width spaces, the byte-order mark and the separators U+001C to U+001F are not in the
set.
-/

namespace LayoutRecovery
namespace Text

/-- The code points of white space, as ranges with both ends included. -/
def blankRanges : List (Nat × Nat) :=
  [(0x9, 0xD), (0x20, 0x20), (0x85, 0x85), (0xA0, 0xA0), (0x1680, 0x1680), (0x2000, 0x200A),
    (0x2028, 0x2029), (0x202F, 0x202F), (0x205F, 0x205F), (0x3000, 0x3000)]

/-- Whether a code point lies in one of the given ranges. -/
def inRanges (ranges : List (Nat × Nat)) (point : Nat) : Bool :=
  ranges.any fun (first, last) => decide (first ≤ point) && decide (point ≤ last)

/-- Whether a character is white space. -/
def isBlank (character : Char) : Bool :=
  inRanges blankRanges character.toNat

/-- A text without the longest run at its end whose characters all satisfy a condition. -/
def dropEndWhile (drops : Char → Bool) (text : List Char) : List Char :=
  (text.reverse.dropWhile drops).reverse

/-- A text without leading white space. -/
def trimStart (text : List Char) : List Char :=
  text.dropWhile isBlank

/-- A text without trailing white space. -/
def trimEnd (text : List Char) : List Char :=
  dropEndWhile isBlank text

/-- A text without white space at either end. -/
def trim (text : List Char) : List Char :=
  trimEnd (trimStart text)

/-- The longest pieces of a text that hold no white space, in order. -/
def words (text : List Char) : List (List Char) :=
  (text.splitOnP isBlank).filter fun word => !word.isEmpty

end Text
end LayoutRecovery
