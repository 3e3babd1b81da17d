/-!
# Terminal control

What is left of a text without the parts that a terminal would obey instead of showing: control
characters, and control functions, which the escape character opens.  Tabs, line feeds, form feeds
and carriage returns are kept.

A control function is a short escape sequence, a control sequence such as a change of colour, or a
string that goes on up to a terminator.  A string that nothing ends takes all the rest of the text
with it.  A tab or a line break inside a sequence is shown, and so is the text behind it, up to the
next control character; there the sequence goes on.
-/

namespace LayoutRecovery
namespace Terminal

/-- Whether a character lays out text: a tab, a line feed, a form feed or a carriage return. -/
def isLayout (character : Char) : Bool :=
  character == '\t' || character == '\n' || character == '\x0c' || character == '\r'

/-- Whether a character is shown where no control function is open. -/
def isShown (character : Char) : Bool :=
  isLayout character || decide (0x20 ≤ character.toNat) && character.toNat != 0x7F

/-- Whether a code point lies between two others, both included. -/
def between (first last point : Nat) : Bool :=
  decide (first ≤ point) && decide (point ≤ last)

/-- How far a control function has been read. -/
inductive Stage where
  /-- No control function is open. -/
  | plain
  /-- Behind an escape character. -/
  | escape
  /-- In an escape sequence, behind an intermediate character. -/
  | escapeIntermediate
  /-- In a control sequence. -/
  | control
  /-- At the start of a device control string. -/
  | device
  /-- In the parameters of a device control string. -/
  | deviceParameter
  /-- In a device control string, behind an intermediate character. -/
  | deviceIntermediate
  /-- In a string that ends with the terminator 0x9C. -/
  | string
  /-- In a command to the operating system, which ends with a bell. -/
  | command
  deriving DecidableEq

namespace Stage

/-- Whether a character is shown at a stage. -/
def shows (stage : Stage) (character : Char) : Bool :=
  match stage with
  | plain => isShown character
  | escape | escapeIntermediate | control => isLayout character
  | device | deviceParameter | deviceIntermediate | string | command => false

/-- The stage that a character behind an escape character leads to. -/
def opened (character : Char) : Stage :=
  match character with
  | '[' => control
  | 'P' => device
  | ']' => command
  | 'X' | '^' | '_' => string
  | _ => plain

/--
The stage behind a character that is not shown.  An escape character opens a control function at any
stage, and U+0018 and U+001A break one off; the terminator 0x9C counts as a byte of the UTF-8 form.
-/
def next (stage : Stage) (character : Char) : Stage :=
  let point := character.toNat
  if point = 0x1B then escape
  else if point = 0x18 ∨ point = 0x1A then plain
  else
    match stage with
    | plain => plain
    | escape =>
        if between 0x20 0x2F point then escapeIntermediate
        else if between 0x30 0x7E point then opened character
        else escape
    | escapeIntermediate => if between 0x30 0x7E point then plain else escapeIntermediate
    | control => if between 0x40 0x7E point then plain else control
    | device =>
        if between 0x20 0x2F point then deviceIntermediate
        else if between 0x30 0x3F point then deviceParameter
        else if between 0x40 0x7E point then string
        else device
    | deviceParameter =>
        if between 0x20 0x2F point then deviceIntermediate
        else if between 0x3C 0x7E point then string
        else deviceParameter
    | deviceIntermediate => if between 0x30 0x7E point then string else deviceIntermediate
    | string => if (String.utf8EncodeChar character).contains 0x9C then plain else string
    | command => if point = 0x07 then plain else command

end Stage

/--
The characters shown of a text that starts at a stage.  Once a character is shown, the others behind
it are shown like plain text; one beyond ASCII among them ends the control function for good.
-/
def visible (stage : Stage) (behindShown : Bool) : List Char → List Char
  | [] => []
  | character :: rest =>
      if (if behindShown then isShown character else stage.shows character) then
        character :: visible (if character.toNat < 0x80 then stage else .plain) true rest
      else visible (stage.next character) false rest

/-- A text without terminal control. -/
def strip (text : String) : String :=
  String.ofList (visible .plain false text.toList)

end Terminal
end LayoutRecovery
