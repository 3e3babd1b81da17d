import LayoutRecovery.Text.Column

/-!
# Log records

What a run reports besides its results, and which of it is shown at a chosen verbosity.
-/

namespace LayoutRecovery

/-- How much a log record matters. -/
inductive Severity where
  /-- Something in the input looks wrong. -/
  | warning
  /-- Something was found. -/
  | info
  /-- A detail of how a result came about. -/
  | debug
  deriving DecidableEq

/-- One log record. -/
structure LogRecord where
  /-- How much it matters. -/
  severity : Severity
  /-- What it says. -/
  message : String
  deriving DecidableEq

namespace Severity

/-- The name of a severity. -/
def label : Severity → String
  | warning => "WARN"
  | info => "INFO"
  | debug => "DEBUG"

/-- Severities in numbers, the more important ones smaller. -/
def rank : Severity → Nat
  | warning => 2
  | info => 3
  | debug => 4

end Severity

/-- How many log records are shown. -/
inductive Verbosity where
  /-- None. -/
  | off
  /-- Errors. -/
  | error
  /-- Warnings too. -/
  | warning
  /-- Findings too. -/
  | info
  /-- Details too. -/
  | debug
  /-- Everything. -/
  | trace
  deriving DecidableEq

namespace Verbosity

/-- Verbosities in numbers, on the scale of severities. -/
def rank : Verbosity → Nat
  | off => 0
  | error => 1
  | warning => 2
  | info => 3
  | debug => 4
  | trace => 5

/-- The name of a verbosity. -/
def label : Verbosity → String
  | off => "OFF"
  | error => "ERROR"
  | warning => "WARN"
  | info => "INFO"
  | debug => "DEBUG"
  | trace => "TRACE"

/--
The verbosity with a name in any case; unknown names mean `info`.  No letter beyond ASCII has a
lower-case form within these names, so ASCII case suffices.
-/
def ofName (name : String) : Verbosity :=
  let lower := name.toList.map Char.toLower
  if lower = "error".toList then error
  else if lower = "warn".toList ∨ lower = "warning".toList then warning
  else if lower = "debug".toList then debug
  else if lower = "trace".toList then trace
  else if lower = "off".toList then off
  else info

/-- The verbosity in effect: a quiet run shows at most warnings. -/
def effective (name : String) (quiet : Bool) : Verbosity :=
  let requested := ofName name
  if quiet && decide (warning.rank < requested.rank) then warning else requested

/-- Whether records of a severity are shown. -/
def admits (verbosity : Verbosity) (severity : Severity) : Bool :=
  decide (severity.rank ≤ verbosity.rank)

end Verbosity

namespace LogRecord

/-- The record as one line, its own further lines indented by four columns. -/
def render (record : LogRecord) : String :=
  "[" ++ Text.padEnd 5 record.severity.label ++ "] "
    ++ String.ofList (record.message.toList.flatMap fun character =>
      if character = '\n' then "\n    ".toList else [character]) ++ "\n"

/-- A warning. -/
def warning (message : String) : LogRecord := ⟨.warning, message⟩

/-- A finding. -/
def info (message : String) : LogRecord := ⟨.info, message⟩

/-- A detail. -/
def debug (message : String) : LogRecord := ⟨.debug, message⟩

end LogRecord
end LayoutRecovery
