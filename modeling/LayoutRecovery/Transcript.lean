import LayoutRecovery.Emission

/-!
# Transcripts of the body

The lines after the signature are taken one by one, each with a look at the line behind it.  Every
line leaves a report: the pieces of the class body that it gives rise to, ending in a copy of the
line itself, and the log records made on the way.
-/

namespace LayoutRecovery

/-- What one line of the body gave rise to. -/
structure LineReport where
  /-- The pieces of the class body. -/
  items : List Item
  /-- The log records. -/
  log : List LogRecord
  /-- Whether the line declared members. -/
  declares : Bool

/-- The report of a line and the context behind it. -/
structure LineStep where
  /-- What the line gave rise to. -/
  report : LineReport
  /-- The context afterwards. -/
  context : Context

/-- The reports of all body lines and the context behind them. -/
structure Transcript where
  /-- The reports in order. -/
  reports : List LineReport
  /-- The context afterwards. -/
  context : Context

namespace SourceLine

/-- The copy of a line in the class body; an empty line leaves none. -/
def copyItems (line : SourceLine) : List Item :=
  if line.isEmpty then [] else [.remark (.source line.text)]

/-- The start of the log messages about a line of some kind. -/
def logStem (line : SourceLine) (kind : LineKind) : String :=
  "line" ++ toString line.number ++ ": " ++ kind.column ++ " | "

/-- The end of the log messages about a line. -/
def logOrigin (line : SourceLine) : String :=
  ", origin: " ++ line.trimmed

end SourceLine

namespace Context

/-- The step over a line that only leaves a copy of itself. -/
def passOver (context : Context) (line : SourceLine) (log : List LogRecord) : LineStep :=
  { report := { items := line.copyItems, log, declares := false }, context }

/-- The step over a line that emits something. -/
def record (line : SourceLine) (kind : LineKind) (step : EmissionStep) : LineStep :=
  let found := LogRecord.info (line.logStem kind ++ "found " ++ kind.label ++ line.logOrigin)
  match step.emission with
  | .members items =>
      let sizes :=
        if step.context.heuristics.reportSizes then
          [Item.remark (.accumulated step.context.tally.accumulated)]
        else []
      { report :=
          { items := items ++ sizes ++ line.copyItems
            log := step.log ++ [found]
            declares := true }
        context := { step.context with previousLine := some line.text } }
  | .remark items =>
      { report :=
          { items := items ++ line.copyItems, log := step.log ++ [found], declares := false }
        context := step.context }
  | .skipped reason =>
      step.context.passOver line (step.log ++
        [LogRecord.debug (line.logStem kind ++ "skipping " ++ reason ++ line.logOrigin)])
  | .unparsed =>
      step.context.passOver line (step.log ++
        [LogRecord.warning (line.logStem kind ++ "cannot parse" ++ line.logOrigin)])

/-- The step over a line that is neither suppressed nor a directive. -/
def stepBody (context : Context) (line : SourceLine) (next : Option SourceLine) : LineStep :=
  let kind := LineKind.ofLine line.characters
  match context.emit kind line next with
  | some step => record line kind step
  | none =>
      context.passOver line
        [LogRecord.debug (line.logStem kind ++ "skipping" ++ line.logOrigin)]

/-- The step over one line of the body, with the line behind it. -/
def step (context : Context) (line : SourceLine) (next : Option SourceLine) : LineStep :=
  let settled := { context with suppressesNext := false }
  if context.suppressesNext then
    settled.passOver line
      [LogRecord.debug ("line" ++ toString line.number ++ ": skipping string terminator"
        ++ line.logOrigin)]
  else if Directive.isDirective line.characters then settled.passOver line []
  else settled.stepBody line next

/-- The transcript of the lines of the body. -/
def transcribe (context : Context) : List SourceLine → Transcript
  | [] => { reports := [], context }
  | line :: rest =>
      let first := context.step line rest.head?
      let others := first.context.transcribe rest
      { reports := first.report :: others.reports, context := others.context }

end Context

namespace Transcript

/-- The pieces of the class body in order. -/
def items (transcript : Transcript) : List Item :=
  transcript.reports.flatMap LineReport.items

/-- The log records in order. -/
def log (transcript : Transcript) : List LogRecord :=
  transcript.reports.flatMap LineReport.log

/-- How many lines declared members. -/
def parsedLines (transcript : Transcript) : Nat :=
  transcript.reports.countP LineReport.declares

end Transcript
end LayoutRecovery
