import LayoutRecovery.CommandLine.Setting
import LayoutRecovery.Log

/-!
# Invocations

A command line is read argument by argument.  An option may stand before or behind the command; the
one behind it counts.  A value is looked at only when the next option or operand begins or the line
ends, so an unknown argument is reported before a faulty value directly in front of it.
-/

namespace LayoutRecovery
namespace CommandLine

/-- The operands and options of `generate`. -/
structure GenerateRequest where
  /-- The paths of the inputs. -/
  inputs : List String
  /-- Where the class goes, if not next to its input. -/
  output : Option String
  /-- The suffix of the outputs, if not that of the configuration. -/
  suffix : Option String
  /-- Whether the classes are printed. -/
  stdout : Bool
  /-- Whether one input is processed after the other. -/
  sequential : Bool
  deriving DecidableEq

/-- A command with its operands and options. -/
inductive Command where
  /-- Reconstructs the classes of inputs. -/
  | generate (request : GenerateRequest)
  /-- Shows the kinds of the lines of an input. -/
  | classify (input : String)
  /-- Shows the fingerprint of a text. -/
  | hash (text : String)
  deriving DecidableEq

/-- What a command line asks for. -/
structure Invocation where
  /-- The command. -/
  command : Command
  /-- The name of the log level. -/
  logLevel : String
  /-- Whether less is reported. -/
  quiet : Bool
  /-- The path of the configuration. -/
  config : Option String
  deriving DecidableEq

/-- What the last argument began and a later one completes. -/
inductive Pending where
  /-- Nothing. -/
  | nothing
  /-- An option, with its value if that is there. -/
  | setting (setting : Setting) (value : Option String)
  /-- A row of operands. -/
  | operands (values : List String)
  deriving DecidableEq

/-- The arguments of one scope read so far. -/
structure Scan where
  /-- The options with their values. -/
  given : List (Setting × String)
  /-- The operands. -/
  operands : List String
  /-- What is not complete. -/
  pending : Pending
  /-- Whether `--` has been given, so that only operands follow. -/
  onlyOperands : Bool
  deriving DecidableEq

namespace Scan

/-- Nothing read. -/
def start : Scan := ⟨[], [], .nothing, false⟩

/-- Whether the next argument is the value of an option. -/
def awaitsValue (scan : Scan) : Bool :=
  match scan.pending with
  | .setting _ none => true
  | _ => false

/-- Takes in an option with its value. -/
def store (scan : Scan) (setting : Setting) (value : String) : Except Stop Scan :=
  if scan.given.any fun known => known.1 == setting then .error .repeatedOption
  else if setting.argument = .path ∧ value.isEmpty then .error .invalidValue
  else .ok { scan with given := (setting, value) :: scan.given }

/-- Completes what is pending. -/
def settle (scope : Scope) (scan : Scan) : Except Stop Scan :=
  let settled := { scan with pending := .nothing }
  match scan.pending with
  | .nothing => .ok settled
  | .setting _ none => .error .invalidValue
  | .setting setting (some value) => settled.store setting value
  | .operands values =>
      if scope.operand = .path ∧ values.any String.isEmpty then .error .invalidValue
      else .ok { settled with operands := scan.operands ++ values }

/-- Takes in an option with a value attached to it, or one that takes none. -/
def give (scope : Scope) (scan : Scan) (setting : Setting) (value : String) :
    Except Stop Scan :=
  match scan.settle scope with
  | .error stop => .error stop
  | .ok settled =>
      match setting with
      | .help => .error .help
      | .version => .error .version
      | _ => settled.store setting value

/-- Begins an option whose value is the next argument. -/
def begin (scope : Scope) (scan : Scan) (setting : Setting) : Except Stop Scan :=
  (scan.settle scope).map fun settled => { settled with pending := .setting setting none }

/-- Takes in an option by its long name, with what is attached behind an equals sign. -/
def takeLong (scope : Scope) (scan : Scan) (argument : List Char) : Except Stop Scan :=
  let name := argument.takeWhile (· != '=')
  match scope.long? name, argument.dropWhile (· != '=') with
  | none, _ => .error .unknownArgument
  | some setting, [] =>
      if setting.argument = .nothing then scan.give scope setting "" else scan.begin scope setting
  | some setting, _ :: value =>
      if setting.argument = .nothing then .error .unexpectedValue
      else scan.give scope setting (String.ofList value)

/-- Takes in options by their letters; the rest behind one that takes a value is its value. -/
def takeShort (scope : Scope) (scan : Scan) : List Char → Except Stop Scan
  | [] => .ok scan
  | letter :: rest =>
      match scope.short? letter with
      | none => .error .unknownArgument
      | some setting =>
          if setting.argument = .nothing then
            match scan.give scope setting "" with
            | .ok given => given.takeShort scope rest
            | .error stop => .error stop
          else
            match rest with
            | [] => scan.begin scope setting
            | '=' :: value => scan.give scope setting (String.ofList value)
            | value => scan.give scope setting (String.ofList value)

/-- Whether an operand has been read. -/
def hasOperand (scan : Scan) : Bool :=
  match scan.pending with
  | .operands _ => true
  | _ => !scan.operands.isEmpty

/-- Takes in an operand. -/
def takeOperand (scope : Scope) (scan : Scan) (argument : String) : Except Stop Scan :=
  let begun := (scan.settle scope).map fun settled =>
    { settled with pending := .operands [argument] }
  match scope with
  | .outer =>
      .error (if scan.onlyOperands && Scope.isCommand argument then .unknownArgument
        else .unknownCommand)
  | .generate =>
      match scan.pending with
      | .operands values => .ok { scan with pending := .operands (values ++ [argument]) }
      | _ => begun
  | .classify => if scan.hasOperand then .error .unknownArgument else begun
  | .hash => if scan.hasOperand then .error .unknownArgument else begun

/-- Takes in an argument that does not start with a hyphen, or is nothing but one. -/
def takePlain (scope : Scope) (scan : Scan) (argument : String) : Except Stop Scan :=
  match scan.pending with
  | .setting setting none => .ok { scan with pending := .setting setting (some argument) }
  | _ => scan.takeOperand scope argument

/-- Takes in an argument. -/
def take (scope : Scope) (scan : Scan) (argument : String) : Except Stop Scan :=
  if scan.onlyOperands then scan.takeOperand scope argument
  else
    match argument.toList with
    | ['-', '-'] => .ok { scan with onlyOperands := true }
    | '-' :: '-' :: long => scan.takeLong scope long
    | ['-'] => scan.takePlain scope argument
    | '-' :: letters => scan.takeShort scope letters
    | _ => scan.takePlain scope argument

/-- The value of an option. -/
def value? (scan : Scan) (setting : Setting) : Option String :=
  scan.given.lookup setting

/-- Whether an option is given. -/
def has (scan : Scan) (setting : Setting) : Bool :=
  (scan.value? setting).isSome

end Scan

namespace Invocation

/-- The arguments behind the name of a command. -/
def scanInner (scope : Scope) (arguments : List String) : Except Stop Scan := do
  let scan ← arguments.foldlM (fun scan argument => scan.take scope argument) Scan.start
  let settled ← scan.settle scope
  if settled.operands.isEmpty then .error .missingOperand else return settled

/-- The command that a scope and its operands and options make. -/
def commandOf (scope : Scope) (scan : Scan) : Command :=
  let first := scan.operands.head?.getD ""
  match scope with
  | .classify => .classify first
  | .hash => .hash first
  | _ => .generate
      { inputs := scan.operands
        output := scan.value? .output
        suffix := scan.value? .suffix
        stdout := scan.has .stdout
        sequential := scan.has .sequential }

/-- What the arguments before and behind the name of a command ask for. -/
def make (scope : Scope) (outer inner : Scan) : Invocation :=
  { command := commandOf scope inner
    logLevel := ((inner.value? .logLevel).or (outer.value? .logLevel)).getD "info"
    quiet := inner.has .quiet || outer.has .quiet
    config := (inner.value? .config).or (outer.value? .config) }

/-- What the arguments behind `help` amount to: at most one command can be asked about. -/
def helpStop : List String → Stop
  | [] => .help
  | [name] => if Scope.isCommand name then .help else .unknownCommand
  | _ => .unknownCommand

/-- Reads the arguments up to the name of a command, and the command behind it. -/
def readFrom (scan : Scan) : List String → Except Stop Invocation
  | [] =>
      match scan.settle .outer with
      | .error stop => .error stop
      | .ok settled => .error (if settled.given.isEmpty then .nothingGiven else .missingCommand)
  | argument :: rest =>
      let command := !scan.onlyOperands && !scan.awaitsValue
      match if command then Scope.ofCommand? argument else none with
      | some scope => do
          let inner ← scanInner scope rest
          let outer ← scan.settle .outer
          return make scope outer inner
      | none =>
          if command && argument == "help" then .error (helpStop rest)
          else
            match scan.take .outer argument with
            | .ok next => readFrom next rest
            | .error stop => .error stop

/-- Reads a command line. -/
def read (arguments : List String) : Except Stop Invocation :=
  readFrom Scan.start arguments

/-- How many log records the invocation shows. -/
def verbosity (invocation : Invocation) : Verbosity :=
  Verbosity.effective invocation.logLevel invocation.quiet

end Invocation
end CommandLine
end LayoutRecovery
