import LayoutRecovery.Text.Search

/-!
# Cast widths

The width of a memory access, read off the type name in a cast.  Type names are recognised by the
markers they contain, tried in a fixed order: some markers contain others, as `__int64` and
`unsigned __int16` contain `int`.
-/

namespace LayoutRecovery

/-- The number of bits that a cast reads or writes. -/
inductive CastWidth where
  /-- One byte. -/
  | bits8
  /-- Two bytes. -/
  | bits16
  /-- Four bytes. -/
  | bits32
  /-- Eight bytes. -/
  | bits64
  /-- Sixteen bytes. -/
  | bits128
  /-- No marker was found. -/
  | unknown
  deriving DecidableEq

namespace CastWidth

/-- The markers in the order in which they are tried. -/
def markers : List (String × CastWidth) :=
  [("_OWORD", bits128), ("__int128", bits128),
    ("_QWORD", bits64), ("__int64", bits64), ("double", bits64),
    ("_WORD", bits16), ("__int16", bits16), ("short", bits16),
    ("_BYTE", bits8), ("__int8", bits8), ("char", bits8), ("bool", bits8),
    ("_DWORD", bits32), ("__int32", bits32), ("float", bits32), ("int", bits32)]

/-- The width of the first marker that occurs in a text. -/
def detect (text : List Char) : CastWidth :=
  match markers.find? fun (marker, _) => Text.occursIn marker.toList text with
  | some (_, width) => width
  | none => unknown

/-- The number of bytes; an unknown width counts as four. -/
def bytes : CastWidth → Nat
  | bits8 => 1
  | bits16 => 2
  | bits32 => 4
  | bits64 => 8
  | bits128 => 16
  | unknown => 4

end CastWidth
end LayoutRecovery
