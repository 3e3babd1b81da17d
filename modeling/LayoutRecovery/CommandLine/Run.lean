import LayoutRecovery.CommandLine.Host
import LayoutRecovery.CommandLine.Invocation
import LayoutRecovery.Config.Document

/-!
# Running commands

The commands themselves, on any host.  A command either succeeds or fails for one reason; what has
been reported before stays reported.
-/

namespace LayoutRecovery

/-- Why a configuration file cannot be used. -/
inductive ConfigError where
  /-- It cannot be read. -/
  | file (error : FileError)
  /-- It is not a configuration. -/
  | unreadable
  /-- It does not meet a condition. -/
  | fault (fault : ConfigFault)
  deriving DecidableEq

namespace ConfigError

/-- The error in words. -/
def message : ConfigError → String
  | file error => error.message
  | unreadable => "not a configuration document"
  | fault found => found.message

end ConfigError

namespace CommandLine

/-- Why a command fails. -/
inductive Failure where
  /-- The configuration cannot be loaded. -/
  | config (path : String) (error : ConfigError)
  /-- One output path is given for several inputs. -/
  | outputForSeveral
  /-- An output path is given although the class is printed. -/
  | outputAndStdout
  /-- An input does not exist. -/
  | missingInput (path : String)
  /-- The settings do not fit together. -/
  | settings (fault : ConfigFault)
  /-- The input to be shown cannot be read. -/
  | unreadableInput (path : String) (error : FileError)
  /-- Some inputs failed. -/
  | inputs (failed total : Nat)
  deriving DecidableEq

namespace Failure

/-- The failure in words, its causes behind colons. -/
def message : Failure → String
  | config path error =>
      "Failed to load config " ++ Text.quoted path ++ ": " ++ error.message
  | outputForSeveral => "--output can only be used with a single input"
  | outputAndStdout => "Cannot specify both --output and --stdout"
  | missingInput path => "Input file does not exist: " ++ Text.quoted path
  | settings fault => fault.message
  | unreadableInput path error =>
      "Failed to read " ++ Text.quoted path ++ ": " ++ (InputError.file error).message ++ ": "
        ++ error.message
  | inputs failed total =>
      toString failed ++ " of " ++ toString total ++ " input(s) failed"

end Failure

variable {m : Type → Type} [Monad m]

/-- Loads the configuration in a file. -/
def loadConfig (host : Host m) (path : String) : m (Except ConfigError Config) := do
  match ← host.readText path with
  | .error error => return .error (.file error)
  | .ok text =>
      match Config.parse? text with
      | none => return .error .unreadable
      | some config =>
          match config.fault? with
          | some fault => return .error (.fault fault)
          | none => return .ok config

namespace GenerateRequest

/-- The configuration with what the request changes in it. -/
def adjust (request : GenerateRequest) (config : Config) : Config :=
  { config with
    outputSuffix := request.suffix.getD config.outputSuffix
    parallel := config.parallel && !request.sequential && !request.stdout }

/-- Where the classes are written. -/
def destination (request : GenerateRequest) (config : Config) : Destination :=
  match request.output with
  | some path => .fixed path
  | none => .beside config.outputSuffix

/-- Where the classes go. -/
def sink (request : GenerateRequest) (host : Host m) (config : Config) : Sink m :=
  if request.stdout then host.printer else host.writer (request.destination config)

/-- What is said about where a class went. -/
def destinationText (request : GenerateRequest) (config : Config) (name : String) : String :=
  if request.stdout then "stdout" else (request.destination config).path name

/-- Says what became of an input; a quiet run says so only of failures. -/
def report (request : GenerateRequest) (host : Host m) (config : Config) (quiet : Bool)
    (outcome : Outcome) : m Unit :=
  match outcome.result with
  | .ok (some stub) =>
      if quiet then return ()
      else host.emit (.status ("[+] " ++ stub.header.className ++ ": " ++ toString stub.parsedLines
        ++ " field(s), " ++ stub.accumulated.text ++ " bytes -> "
        ++ request.destinationText config outcome.name))
  | .ok none =>
      if quiet then return ()
      else host.emit (.status ("[!] " ++ outcome.name ++ ": nothing to parse, no output written"))
  | .error error => host.emit (.status ("[!] " ++ outcome.name ++ ": " ++ error.message))

/-- The first input that does not exist. -/
def missingInput? (host : Host m) : List String → m (Option String)
  | [] => return none
  | path :: rest => do
      if ← host.pathExists path then missingInput? host rest else return some path

/-- What is wrong with the request itself. -/
def check (request : GenerateRequest) (host : Host m) : m (Option Failure) := do
  if request.output.isSome && decide (1 < request.inputs.length) then
    return some .outputForSeveral
  else if request.output.isSome && request.stdout then return some .outputAndStdout
  else return (← missingInput? host request.inputs).map Failure.missingInput

/-- The inputs of the request. -/
def sources (request : GenerateRequest) (host : Host m) : List (Source m) :=
  request.inputs.map host.source

/-- The batch that carries out the request. -/
def batch (request : GenerateRequest) (host : Host m) (config : Config) : Batch m where
  config := config
  log record := host.emit (.log record)
  sink := request.sink host config
  finished _ := return ()

/-- Reconstructs the classes of the inputs. -/
def runBatch (request : GenerateRequest) (host : Host m) (config : Config) (quiet : Bool) :
    m (Except Failure Unit) := do
  if !quiet then
    host.emit (.status ("[*] Parsing " ++ toString request.inputs.length ++ " input(s)..."))
  let sources := request.sources host
  let outcomes ← (request.batch host config).runInOrder sources
    ((host.scheduleFor config).order sources.length)
  outcomes.forM (request.report host config quiet)
  let failed := outcomes.countP Outcome.isFailure
  if failed = 0 then return .ok () else return .error (.inputs failed outcomes.length)

/-- Carries out the request. -/
def run (request : GenerateRequest) (host : Host m) (config : Config) (quiet : Bool) :
    m (Except Failure Unit) := do
  match ← request.check host with
  | some failure => return .error failure
  | none =>
      let adjusted := request.adjust config
      match adjusted.fault? with
      | some fault => return .error (.settings fault)
      | none => request.runBatch host adjusted quiet

end GenerateRequest

/-- The line that shows the kind of an input line. -/
def classifiedLine (line : SourceLine) : String :=
  let label :=
    if Directive.isDirective line.characters then "DIRECTIVE"
    else (LineKind.ofLine line.characters).label
  Text.padStart 5 (toString line.number) ++ " " ++ Text.padEnd 9 label ++ " " ++ line.text ++ "\n"

/-- Shows the kinds of the lines of an input. -/
def runClassify (host : Host m) (path : String) : m (Except Failure Unit) := do
  match ← (host.source path).load with
  | .error error => return .error (.unreadableInput path error)
  | .ok lines =>
      lines.forM fun line => host.emit (.output (classifiedLine line))
      return .ok ()

/-- Shows the fingerprint of a text. -/
def runHash (host : Host m) (text : String) : m (Except Failure Unit) := do
  host.emit (.output (Numeral.word32Hex (Fingerprint.ofText text) ++ "\n"))
  return .ok ()

namespace Invocation

/-- The configuration that the invocation names, or the default one. -/
def loadConfig (invocation : Invocation) (host : Host m) : m (Except Failure Config) := do
  match invocation.config with
  | none => return .ok {}
  | some path =>
      match ← CommandLine.loadConfig host path with
      | .error error => return .error (.config path error)
      | .ok config => return .ok config

/-- Carries out a command. -/
def run (invocation : Invocation) (host : Host m) : m (Except Failure Unit) := do
  match ← invocation.loadConfig host with
  | .error failure => return .error failure
  | .ok config =>
      match invocation.command with
      | .generate request => request.run host config invocation.quiet
      | .classify input => runClassify host input
      | .hash text => runHash host text

end Invocation

/-- What is said when there is no command to carry out: what was asked for is printed, a mistake is
reported. -/
def stopEvent (stop : Stop) : Event :=
  if stop.exitCode = 0 then .output (stop.message ++ "\n") else .status stop.message

/-- Reads and carries out a command line, and gives the exit code. -/
def execute (host : Host m) (arguments : List String) : m Nat := do
  match Invocation.read arguments with
  | .error stop =>
      host.emit (stopEvent stop)
      return stop.exitCode
  | .ok invocation =>
      match ← invocation.run (host.admitting invocation.verbosity) with
      | .ok () => return 0
      | .error failure =>
          host.emit (.status ("[!] " ++ failure.message))
          return 1

end CommandLine
end LayoutRecovery
