/-!
# Command-line settings

The commands, the options that can be given before and behind their names, and the ways in which a
command line ends without a command to carry out.
-/

namespace LayoutRecovery
namespace CommandLine

/-- An option of some command. -/
inductive Setting where
  /-- How much is logged. -/
  | logLevel
  /-- Less is reported. -/
  | quiet
  /-- Colours are off. -/
  | noColor
  /-- A configuration is read. -/
  | config
  /-- The class goes to a path. -/
  | output
  /-- The classes are named with another suffix. -/
  | suffix
  /-- The classes are printed. -/
  | stdout
  /-- One input is processed after the other. -/
  | sequential
  /-- Help is asked for. -/
  | help
  /-- The version is asked for. -/
  | version
  deriving DecidableEq

/-- What an option or operand accepts. -/
inductive Argument where
  /-- No value. -/
  | nothing
  /-- Any text. -/
  | text
  /-- A path, which is not empty. -/
  | path
  deriving DecidableEq

/-- Where options are read: before the command, or behind one. -/
inductive Scope where
  /-- Before the command. -/
  | outer
  /-- Behind `generate`. -/
  | generate
  /-- Behind `classify`. -/
  | classify
  /-- Behind `hash`. -/
  | hash
  deriving DecidableEq

/-- What ends the reading of a command line before there is a command to carry out. -/
inductive Stop where
  /-- Help was asked for. -/
  | help
  /-- The version was asked for. -/
  | version
  /-- Nothing at all was given. -/
  | nothingGiven
  /-- There is no command. -/
  | missingCommand
  /-- The command is unknown. -/
  | unknownCommand
  /-- An option is unknown, or an operand is one too many. -/
  | unknownArgument
  /-- An operand is missing. -/
  | missingOperand
  /-- A value is missing or empty. -/
  | invalidValue
  /-- A value stands at an option that takes none. -/
  | unexpectedValue
  /-- An option is repeated. -/
  | repeatedOption
  deriving DecidableEq

namespace Setting

/-- The name of an option behind two hyphens. -/
def long : Setting → String
  | logLevel => "log-level"
  | quiet => "quiet"
  | noColor => "no-color"
  | config => "config"
  | output => "output"
  | suffix => "suffix"
  | stdout => "stdout"
  | sequential => "sequential"
  | help => "help"
  | version => "version"

/-- The letter of an option behind one hyphen. -/
def short? : Setting → Option Char
  | logLevel => some 'l'
  | quiet => some 'q'
  | config => some 'c'
  | output => some 'o'
  | help => some 'h'
  | version => some 'V'
  | noColor => none
  | suffix => none
  | stdout => none
  | sequential => none

/-- What an option accepts. -/
def argument : Setting → Argument
  | logLevel => .text
  | suffix => .text
  | config => .path
  | output => .path
  | quiet => .nothing
  | noColor => .nothing
  | stdout => .nothing
  | sequential => .nothing
  | help => .nothing
  | version => .nothing

end Setting

namespace Scope

/-- The options that can be given. -/
def settings : Scope → List Setting
  | outer => [.logLevel, .quiet, .noColor, .config, .help, .version]
  | generate =>
      [.logLevel, .quiet, .noColor, .config, .help, .output, .suffix, .stdout, .sequential]
  | classify => [.logLevel, .quiet, .noColor, .config, .help]
  | hash => [.logLevel, .quiet, .noColor, .config, .help]

/-- What an operand has to be. -/
def operand : Scope → Argument
  | outer => .nothing
  | generate => .path
  | classify => .path
  | hash => .text

/-- The scope behind the name of a command. -/
def ofCommand? (name : String) : Option Scope :=
  if name = "generate" then some generate
  else if name = "classify" then some classify
  else if name = "hash" then some hash
  else none

/-- Whether a name is that of a command, `help` among them. -/
def isCommand (name : String) : Bool :=
  (ofCommand? name).isSome || name == "help"

/-- The option with a long name. -/
def long? (scope : Scope) (name : List Char) : Option Setting :=
  scope.settings.find? fun setting => setting.long.toList == name

/-- The option with a letter. -/
def short? (scope : Scope) (letter : Char) : Option Setting :=
  scope.settings.find? fun setting => setting.short? == some letter

end Scope

namespace Stop

/-- The exit code of a run that ends so: asking for help or the version is no mistake. -/
def exitCode : Stop → Nat
  | help => 0
  | version => 0
  | _ => 2

/-- A one-line explanation. -/
def message : Stop → String
  | help => "usage: [OPTIONS] <generate|classify|hash> ..."
  | version => "raw-template-parser 1.0.0"
  | nothingGiven => "usage: [OPTIONS] <generate|classify|hash> ..."
  | missingCommand => "error: a command is required"
  | unknownCommand => "error: unrecognized command"
  | unknownArgument => "error: unexpected argument"
  | missingOperand => "error: a required argument was not provided"
  | invalidValue => "error: a value is required for an argument"
  | unexpectedValue => "error: unexpected value for an argument"
  | repeatedOption => "error: an argument cannot be used multiple times"

end Stop
end CommandLine
end LayoutRecovery
