import LayoutRecovery.Text.Blank
import LayoutRecovery.Text.Column
import LayoutRecovery.Text.Search

/-!
# Kinds of body lines

A line is told apart by what occurs in it.  The predicates are tried in a fixed order: loop marks
come first, lines that do not mention a pointer variable say nothing, and of the others string
copies come before assignments through a pointer and those before calls.
-/

namespace LayoutRecovery

/-- What a line of pseudocode does to the structure. -/
inductive LineKind where
  /-- Nothing. -/
  | inert
  /-- Starts or ends a loop. -/
  | loop
  /-- Copies text of a fixed size into it. -/
  | copy
  /-- Writes a number into it. -/
  | write
  /-- Hands a pointer into it to a subroutine. -/
  | call
  deriving DecidableEq

namespace LineKind

/-- The name of a kind in messages. -/
def label : LineKind → String
  | inert => "NOP"
  | loop => "BLOCK"
  | copy => "STRING"
  | write => "NUMBER"
  | call => "CALL"

/-- The name of a kind in a column of six characters. -/
def column (kind : LineKind) : String :=
  Text.padEnd 6 kind.label

/-- Whether `mark` occurs in a text before a place that satisfies a condition. -/
def marks (mark : List Char) (accepts : List Char → Bool) : List Char → Bool
  | [] => false
  | character :: rest =>
      ((Text.after? mark (character :: rest)).any accepts) || marks mark accepts rest

/-- Whether a place is the end of the text, white space or an opening brace. -/
def endsLoopWord : List Char → Bool
  | [] => true
  | character :: _ => Text.isBlank character || character == '\x7b'

/-- Whether a place is a space or an opening parenthesis. -/
def startsCondition : List Char → Bool
  | [] => false
  | character :: _ => character == ' ' || character == '('

/-- Whether a line has an indented `do` that ends a word, or an indented `while`. -/
def isLoop (line : List Char) : Bool :=
  marks "  do".toList endsLoopWord line || marks "  while".toList startsCondition line

/--
Whether a line mentions one of the pointer variables `a0` to `a15` and `v0` to `v15`.  A name in
these ranges occurs exactly where `a` or `v` stands before a digit.
-/
def mentionsPointer : List Char → Bool
  | letter :: digit :: rest =>
      ((letter == 'a' || letter == 'v') && digit.isDigit) || mentionsPointer (digit :: rest)
  | _ => false

/-- Whether a line copies a string. -/
def isCopy (line : List Char) : Bool :=
  Text.occursIn "strncpy".toList line

/-- Whether a line assigns through a cast pointer. -/
def isAssignment (line : List Char) : Bool :=
  Text.occursIn "*(".toList line && Text.occursIn "*)".toList line
    && Text.occursIn " = ".toList line

/-- Whether a line is a call of a subroutine with an underscore in its text. -/
def isCall (line : List Char) : Bool :=
  (");".toList).isSuffixOf (Text.trimEnd line) && line.contains '_'

/-- Whether a line writes zero through a cast pointer, as after a string copy. -/
def isZeroWrite (line : List Char) : Bool :=
  isAssignment (Text.trim line) && (" = 0;".toList).isSuffixOf (Text.trim line)

/-- The functions that change the case of a string in place. -/
def caseFunctions : List String :=
  ["tolower", "toupper", "_strlwr", "_strupr", "strlwr", "strupr"]

/-- Whether a line names a function that changes the case of a string. -/
def isCaseCall (line : List Char) : Bool :=
  caseFunctions.any fun name => Text.occursIn name.toList line

/-- Whether a line can be the signature of the subroutine: an argument list outside comments. -/
def isSignature (line : List Char) : Bool :=
  let start := Text.trimStart line
  line.contains '(' && line.contains ')'
    && !("//".toList).isPrefixOf start && !("#".toList).isPrefixOf start

/-- The kind of a line. -/
def ofLine (line : List Char) : LineKind :=
  if isLoop line then loop
  else if !mentionsPointer line then inert
  else if isCopy line then copy
  else if isAssignment line then write
  else if isCall line then call
  else inert

end LineKind
end LayoutRecovery
