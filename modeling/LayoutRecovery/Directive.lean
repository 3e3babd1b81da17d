import LayoutRecovery.Log
import LayoutRecovery.Size
import LayoutRecovery.SourceLine
import LayoutRecovery.Text.Column
import LayoutRecovery.Text.Quoted
import LayoutRecovery.Text.Search

/-!
# Directives

Lines in the input that instruct the reconstruction: `#sub`, `#class`, `#size` and four switches.
A directive is recognised by its first word alone; with a wrong number of arguments, or a size that
is not a decimal number of bytes, it is malformed and ends the run.
-/

namespace LayoutRecovery

/-- A subroutine whose calls stand for a member of a known type. -/
structure Subroutine where
  /-- Text that marks a call of it. -/
  name : String
  /-- Type of the member. -/
  targetType : String
  /-- Size of the member. -/
  size : Size
  deriving DecidableEq

/-- The first word of a directive, without its `#`. -/
inductive Keyword where
  /-- Declares a subroutine. -/
  | subroutine
  /-- Names the class. -/
  | className
  /-- Keeps the writes of string terminators. -/
  | keepTerminators
  /-- Keeps calls that change the case of strings. -/
  | keepCaseCalls
  /-- Declares the size of the structure. -/
  | totalSize
  /-- Reports the accumulated size behind every member. -/
  | reportSizes
  /-- Counts a gap behind a string as part of it. -/
  | absorbSlack
  deriving DecidableEq

/-- An instruction to the reconstruction. -/
inductive Directive where
  /-- Declares a subroutine. -/
  | subroutine (subroutine : Subroutine)
  /-- Names the class. -/
  | className (name : String)
  /-- Keeps the writes of string terminators. -/
  | keepTerminators
  /-- Keeps calls that change the case of strings. -/
  | keepCaseCalls
  /-- Declares the size of the structure. -/
  | totalSize (size : Size)
  /-- Reports the accumulated size behind every member. -/
  | reportSizes
  /-- Counts a gap behind a string as part of it. -/
  | absorbSlack
  deriving DecidableEq

/-- What is wrong with the arguments of a directive. -/
inductive DirectiveFault where
  /-- There are too few or too many. -/
  | argumentCount (expected found : Nat)
  /-- A size is not a decimal number of bytes. -/
  | notByteCount (token : String)
  deriving DecidableEq

/-- A malformed directive and the number of its line. -/
structure MalformedDirective where
  /-- The number of the line, counted from one. -/
  line : Nat
  /-- The keyword of the directive. -/
  keyword : Keyword
  /-- What is wrong with it. -/
  fault : DirectiveFault
  deriving DecidableEq

namespace Keyword

/-- All keywords. -/
def all : List Keyword :=
  [subroutine, className, keepTerminators, keepCaseCalls, totalSize, reportSizes, absorbSlack]

/-- The keyword as it is written. -/
def text : Keyword → String
  | subroutine => "sub"
  | className => "class"
  | keepTerminators => "nostrnull"
  | keepCaseCalls => "nolower"
  | totalSize => "size"
  | reportSizes => "logsize"
  | absorbSlack => "strfixup"

/-- How many arguments the keyword takes. -/
def arity : Keyword → Nat
  | subroutine => 3
  | className => 1
  | totalSize => 1
  | keepTerminators => 0
  | keepCaseCalls => 0
  | reportSizes => 0
  | absorbSlack => 0

/-- The keyword that a word writes behind its `#`. -/
def ofWord? (word : List Char) : Option Keyword :=
  (Text.after? ['#'] word).bind fun name => all.find? fun keyword => keyword.text.toList == name

/-- The keyword at the start of a line. -/
def ofLine? (line : List Char) : Option Keyword :=
  (Text.words line).head?.bind ofWord?

end Keyword

namespace DirectiveFault

/-- The fault in words. -/
def message : DirectiveFault → String
  | argumentCount expected found =>
      "expected " ++ toString expected ++ " argument(s), found " ++ toString found
  | notByteCount token => "`" ++ token ++ "` is not a decimal byte count"

end DirectiveFault

namespace MalformedDirective

/-- The error in words. -/
def message (error : MalformedDirective) : String :=
  "line " ++ toString error.line ++ ": malformed directive `" ++ error.keyword.text ++ "`: "
    ++ error.fault.message

end MalformedDirective

namespace Directive

/-- Reads a decimal number of bytes. -/
def byteCount (token : List Char) : Except DirectiveFault Size :=
  match Numeral.readPlusWord? 10 token with
  | some bytes => .ok ⟨bytes⟩
  | none => .error (.notByteCount (String.ofList token))

/-- The directive of a keyword with its arguments. -/
def ofArguments (keyword : Keyword) (arguments : List (List Char)) :
    Except DirectiveFault Directive :=
  let miscounted := .error (.argumentCount keyword.arity arguments.length)
  match keyword, arguments with
  | .subroutine, [name, targetType, size] =>
      (byteCount size).map fun size =>
        subroutine { name := String.ofList name, targetType := String.ofList targetType, size }
  | .className, [name] => .ok (className (String.ofList name))
  | .totalSize, [size] => (byteCount size).map totalSize
  | .keepTerminators, [] => .ok keepTerminators
  | .keepCaseCalls, [] => .ok keepCaseCalls
  | .reportSizes, [] => .ok reportSizes
  | .absorbSlack, [] => .ok absorbSlack
  | _, _ => miscounted

/-- Whether a line starts with the keyword of a directive. -/
def isDirective (line : List Char) : Bool :=
  (Keyword.ofLine? line).isSome

/-- The directive on a line, if its first word is a keyword. -/
def parse (line : SourceLine) : Except MalformedDirective (Option Directive) :=
  match Keyword.ofLine? line.characters with
  | none => .ok none
  | some keyword =>
      match ofArguments keyword (Text.words line.characters).tail with
      | .ok directive => .ok (some directive)
      | .error fault => .error { line := line.number, keyword, fault }

/-- The directive as log records show it. -/
def describe : Directive → String
  | subroutine declared =>
      "Subroutine(SubroutineDescriptor \x7b name: " ++ Text.quoted declared.name
        ++ ", target_type: " ++ Text.quoted declared.targetType
        ++ ", byte_size: " ++ declared.size.text ++ " \x7d)"
  | className name => "ClassName(" ++ Text.quoted name ++ ")"
  | keepTerminators => "DisableStringNullSkip"
  | keepCaseCalls => "DisableCaseNormalizationSkip"
  | totalSize size => "TotalSize(" ++ size.text ++ ")"
  | reportSizes => "LogAccumulatedSize"
  | absorbSlack => "EnableStringNullFixup"

/-- The log record for a directive that is applied. -/
def record (directive : Directive) (line : SourceLine) : LogRecord :=
  LogRecord.debug
    ("lineN: " ++ Text.padEnd 6 (toString line.number) ++ " | directive " ++ directive.describe)

end Directive
end LayoutRecovery
