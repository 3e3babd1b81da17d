import LayoutRecovery.Reading.Assignment
import LayoutRecovery.Reading.Call
import LayoutRecovery.Reading.Copy

/-!
# Emissions

What a body line adds to the class.  The members that the line declares are placed one after the
other: each is reconciled with the member before it, and follows what that turns up.
-/

namespace LayoutRecovery

/-- What a line adds to the class body. -/
inductive Emission where
  /-- Members, each behind its padding and warnings. -/
  | members (items : List Item)
  /-- A remark only. -/
  | remark (items : List Item)
  /-- Nothing, on purpose. -/
  | skipped (reason : String)
  /-- Nothing, because the line cannot be decoded. -/
  | unparsed
  deriving DecidableEq

/-- Pieces of a class body with the log records made on the way and the context behind them. -/
structure Placement where
  /-- The pieces in order. -/
  items : List Item
  /-- The log records in order. -/
  log : List LogRecord
  /-- The context afterwards. -/
  context : Context

/-- An emission with the log records made on the way and the context behind it. -/
structure EmissionStep where
  /-- What the line adds. -/
  emission : Emission
  /-- The log records in order. -/
  log : List LogRecord
  /-- The context afterwards. -/
  context : Context

namespace Context

/-- Declares a member behind what reconciling it turns up. -/
def place (context : Context) (member : Member) : Placement :=
  let reconciliation := context.reconcile member.offset
  { items := reconciliation.items ++ [.member member]
    log := reconciliation.log
    context := context.moveTo member.offset member.size }

/-- Declares members one after the other. -/
def placeAll (context : Context) : List Member → Placement
  | [] => { items := [], log := [], context }
  | member :: rest =>
      let first := context.place member
      let others := first.context.placeAll rest
      { items := first.items ++ others.items
        log := first.log ++ others.log
        context := others.context }

/-- What a line of some kind says, with the log records about its decoding. -/
def read (context : Context) (kind : LineKind) (line : SourceLine) (next : Option SourceLine) :
    Option (Reading × List LogRecord) :=
  match kind with
  | .inert => none
  | .loop => some (.loop, [])
  | .write =>
      match Assignment.read? line.characters with
      | some assignment =>
          some (.members [] (assignment.members context.memberStem), assignment.log)
      | none => some (.unparsed, [])
  | .copy =>
      match Copy.read line.characters with
      | .ok copy => some (copy.reading context next, [])
      | .error found =>
          some (.unparsed,
            [LogRecord.debug ("expected 3 strncpy arguments, found " ++ toString found)])
  | .call => some (Call.reading context line next, [])

/-- Carries out a reading of a line. -/
def perform (context : Context) (line : SourceLine) (reading : Reading) : EmissionStep :=
  match reading with
  | .members opening declared =>
      let placement := context.placeAll declared
      { emission := .members (opening ++ placement.items)
        log := placement.log
        context := placement.context }
  | .terminated declared =>
      let placement := context.place declared
      { emission := .members placement.items
        log := placement.log
        context := { placement.context with suppressesNext := true } }
  | .loop => { emission := .remark [.blank, .remark (.loop line.trimmed)], log := [], context }
  | .skipped reason => { emission := .skipped reason, log := [], context }
  | .unparsed => { emission := .unparsed, log := [], context }

/-- What a line taken as one of some kind adds to the class; inert lines add nothing. -/
def emit (context : Context) (kind : LineKind) (line : SourceLine) (next : Option SourceLine) :
    Option EmissionStep :=
  (context.read kind line next).map fun (reading, log) =>
    let step := context.perform line reading
    { step with log := log ++ step.log }

end Context
end LayoutRecovery
