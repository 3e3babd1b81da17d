import LayoutRecovery.Batch
import LayoutRecovery.Text.Terminal

/-!
# Hosts

What a command needs from its surroundings: files, a place for its messages, and the order in which
it gets to inputs that may be processed at the same time.  The commands are written against a host
in any monad.
-/

namespace LayoutRecovery
namespace CommandLine

/-- Where the output of an input is written. -/
inductive Destination where
  /-- Next to the input, under its name with a suffix. -/
  | beside (suffix : String)
  /-- At one path. -/
  | fixed (path : String)
  deriving DecidableEq

namespace Destination

/-- The path of the output of an input. -/
def path (destination : Destination) (name : String) : String :=
  match destination with
  | beside suffix => name ++ suffix
  | fixed path => path

end Destination

/-- A message of a run. -/
inductive Event where
  /-- Text on standard output. -/
  | output (text : String)
  /-- A line of progress on standard error. -/
  | status (line : String)
  /-- A log record. -/
  | log (record : LogRecord)
  deriving DecidableEq

namespace Event

/-- What a message adds to standard output. -/
def printed : Event → String
  | output text => text
  | status _ => ""
  | log _ => ""

/-- What a message adds to standard error, where log records come without terminal control. -/
def reported : Event → String
  | output _ => ""
  | status line => line ++ "\n"
  | log record => Terminal.strip record.render

end Event

/-- The surroundings of a command. -/
structure Host (m : Type → Type) where
  /-- Reads a file. -/
  readFile : String → m (Except FileError ByteArray)
  /-- Creates or replaces a file, with the missing directories above it. -/
  writeFile : String → ByteArray → m (Except FileError Unit)
  /-- Whether a path leads to something. -/
  pathExists : String → m Bool
  /-- Takes a message. -/
  emit : Event → m Unit
  /-- How inputs are visited that may be processed at the same time. -/
  schedule : Schedule := .inTurn

namespace Host

variable {m : Type → Type} [Monad m]

/-- Reads a file as text. -/
def readText (host : Host m) (path : String) : m (Except FileError String) := do
  match ← host.readFile path with
  | .error error => return .error error
  | .ok bytes =>
      match String.fromUTF8? bytes with
      | some text => return .ok text
      | none => return .error .notText

/-- The input in a file. -/
def source (host : Host m) (path : String) : Source m where
  name := path
  load := return (← host.readText path).map SourceLine.ofText

/-- The host without the log records that a verbosity leaves out. -/
def admitting (host : Host m) (verbosity : Verbosity) : Host m :=
  { host with
    emit := fun event =>
      match event with
      | .log record => if verbosity.admits record.severity then host.emit event else return ()
      | _ => host.emit event }

/-- How the inputs of a batch are visited: in turn if not processed at the same time. -/
def scheduleFor (host : Host m) (config : Config) : Schedule :=
  if config.parallel then host.schedule else .inTurn

/-- Prints classes one after the other. -/
def printer (host : Host m) : Sink m := fun _ text => do
  host.emit (.output text)
  return .ok ()

/-- Writes classes to files. -/
def writer (host : Host m) (destination : Destination) : Sink m := fun name text => do
  let path := destination.path name
  match ← host.writeFile path text.toUTF8 with
  | .error error => return .error error
  | .ok () =>
      host.emit (.log (LogRecord.debug
        ("wrote " ++ toString text.utf8ByteSize ++ " bytes to " ++ path)))
      return .ok ()

end Host

end CommandLine
end LayoutRecovery
