import LayoutRecovery.Offset
import LayoutRecovery.Size

/-!
# The cursor

The place of the member that was declared last, and the two ways in which the place of the next
member can conflict with it.
-/

namespace LayoutRecovery

/-- The place of the member that was declared last. -/
@[ext]
structure Cursor where
  /-- Where the member starts. -/
  offset : Offset
  /-- How many bytes it takes. -/
  size : Size
  deriving DecidableEq, Inhabited

namespace Cursor

/-- The cursor before the first member. -/
def start : Cursor := ⟨Offset.start, Size.zero⟩

/-- The position after the last byte, clamped; the size counts as a signed word. -/
def stop (cursor : Cursor) : Offset :=
  cursor.offset.advance cursor.size.signed

/-- The distance from the end of the member to a position, clamped. -/
def gapTo (cursor : Cursor) (offset : Offset) : Int :=
  (Offset.clamp (offset.toInt - cursor.stop.toInt)).toInt

end Cursor

/-- A conflict between a member and the one before it. -/
inductive Conflict where
  /-- The member starts before the previous one. -/
  | backward (previous offset : Offset)
  /-- The member starts within the previous one, that many bytes before its end. -/
  | overlap (previous : Cursor) (offset : Offset) (bytes : Nat)
  deriving DecidableEq

namespace Conflict

/-- The conflict as the class body reports it. -/
def remark : Conflict → String
  | backward previous offset =>
      "offset moved backward from " ++ previous.text ++ " to " ++ offset.text
        ++ ", overlapping or reordered write"
  | overlap previous offset bytes =>
      "offset " ++ offset.text ++ " overlaps the field at " ++ previous.offset.text ++ " (sz: "
        ++ previous.size.text ++ ") by " ++ toString bytes ++ " bytes"

/-- The conflict as the log reports it. -/
def message : Conflict → String
  | backward previous offset =>
      "offset moved backward from " ++ previous.text ++ " to " ++ offset.text
  | overlap previous offset bytes =>
      "offset " ++ offset.text ++ " overlaps field at " ++ previous.offset.text ++ " by "
        ++ toString bytes ++ " bytes"

end Conflict
end LayoutRecovery
