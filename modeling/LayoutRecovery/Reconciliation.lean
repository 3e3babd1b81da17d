import LayoutRecovery.ClassBody
import LayoutRecovery.Log

/-!
# Reconciling offsets

Every new member is compared with the end of the previous one.  A gap is filled by an ignored
padding member, or counted as slack of a string before it; a conflict is reported.  In each case the
cursor moves to the new member, and the accumulated size grows by the member and the gap.
-/

namespace LayoutRecovery

/-- What is known about the member before a new one. -/
structure Hints where
  /-- Whether it is a string. -/
  afterString : Bool := false
  /-- Whether a gap behind a string counts as part of it. -/
  absorbsSlack : Bool := false
  deriving DecidableEq

/-- The cursor and the size of everything declared so far. -/
@[ext]
structure Tally where
  /-- The place of the last member. -/
  cursor : Cursor
  /-- The size of all members, paddings and absorbed gaps. -/
  accumulated : Size
  deriving DecidableEq, Inhabited

/-- What has to be said before a new member. -/
structure Reconciliation where
  /-- The conflict with the previous member. -/
  conflict : Option Conflict
  /-- How many bytes count as slack of the string before. -/
  absorbed : Nat
  /-- The member that fills the gap. -/
  padding : Option Member
  /-- Where the previous member starts. -/
  previous : Offset
  deriving DecidableEq

namespace Tally

/-- The tally before the first member. -/
def start : Tally := ⟨Cursor.start, Size.zero⟩

/-- The conflict of a member at `offset` with the previous one. -/
def conflict? (tally : Tally) (offset : Offset) : Option Conflict :=
  let gap := tally.cursor.gapTo offset
  if offset.toInt < tally.cursor.offset.toInt then
    some (.backward tally.cursor.offset offset)
  else if gap < 0 then some (.overlap tally.cursor offset gap.natAbs)
  else none

/-- A guess at the cause of a gap of some bytes behind the member at `previous`. -/
def gapHint (gap : Nat) (previous : Offset) (afterString : Bool) : String :=
  if afterString then
    "string at " ++ previous.text
      ++ " may use fewer bytes than its declared size (string underuse)"
  else
    match gap with
    | 1 => "does " ++ previous.text ++ " contain a WORD?"
    | 2 | 3 => "does " ++ previous.text ++ " contain a DWORD?"
    | 6 | 7 => "does " ++ previous.text ++ " contain a QWORD?"
    | _ => "could be padding, a skipped subroutine or an oversized pointer access"

/-- The member that fills a gap of some bytes behind the cursor. -/
def padding (tally : Tally) (gap : Nat) (afterString : Bool) : Member :=
  let stop := tally.cursor.stop
  { name := "Padding" ++ stop.suffix
    offset := stop
    type := .bytes
    size := Size.clamp gap
    ignored := true
    notes :=
      ["missing " ++ toString gap ++ " bytes at offset " ++ stop.text,
        gapHint gap tally.cursor.offset afterString]
    detail := some "comment: auto padding" }

/-- What has to be said before a member at `offset`. -/
def reconcile (tally : Tally) (hints : Hints) (offset : Offset) : Reconciliation :=
  let gap := (tally.cursor.gapTo offset).toNat
  let absorbs := hints.absorbsSlack && hints.afterString
  { conflict := tally.conflict? offset
    absorbed := if absorbs then gap else 0
    padding := if gap = 0 ∨ absorbs then none else some (tally.padding gap hints.afterString)
    previous := tally.cursor.offset }

/-- The tally after a member at `offset`.  The slack of a string is counted before the member and
leaves no gap; any other gap is counted behind it. -/
def place (tally : Tally) (offset : Offset) (size : Size) (hints : Hints := {}) : Tally :=
  let gap := tally.cursor.gapTo offset
  let absorbs := decide (0 < gap) && hints.absorbsSlack && hints.afterString
  let counted := if absorbs then tally.accumulated.grow gap.toNat else tally.accumulated
  let remaining := if absorbs then 0 else gap.toNat
  { cursor := ⟨offset, size⟩
    accumulated := (counted.grow size.toNat).grow remaining }

end Tally

namespace Reconciliation

/-- The pieces of the class body that precede the member. -/
def items (reconciliation : Reconciliation) : List Item :=
  (reconciliation.conflict.map fun conflict => Item.remark (.conflict conflict)).toList
    ++ (match reconciliation.padding with
      | some padding => [.blank, .member padding, .blank]
      | none => [])

/-- The log records. -/
def log (reconciliation : Reconciliation) : List LogRecord :=
  (reconciliation.conflict.map fun conflict => LogRecord.warning conflict.message).toList
    ++ (if reconciliation.absorbed = 0 then []
      else [LogRecord.debug
        ("absorbing " ++ toString reconciliation.absorbed ++ " bytes after string at "
          ++ reconciliation.previous.text ++ " as terminator slack")])

end Reconciliation
end LayoutRecovery
