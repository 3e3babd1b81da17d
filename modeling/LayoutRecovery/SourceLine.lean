import LayoutRecovery.Text.Blank

/-!
# Source lines

The numbered lines of one input, and how a text is cut into them: at line feeds, a carriage return
directly before a line feed belonging to it, and with no empty line after the last line feed.
-/

namespace LayoutRecovery

/-- A line and its position in the input. -/
@[ext]
structure SourceLine where
  /-- How many lines precede it. -/
  index : Nat
  /-- The line without its end. -/
  text : String
  deriving DecidableEq

namespace SourceLine

/-- The number of the line, counted from one. -/
def number (line : SourceLine) : Nat :=
  line.index + 1

/-- The characters of the line. -/
def characters (line : SourceLine) : List Char :=
  line.text.toList

/-- The line without white space at its ends. -/
def trimmed (line : SourceLine) : String :=
  String.ofList (Text.trim line.characters)

/-- Whether the line has no characters at all. -/
def isEmpty (line : SourceLine) : Bool :=
  line.text.isEmpty

/-- Numbers texts in order. -/
def ofTexts (texts : List String) : List SourceLine :=
  texts.zipIdx.map fun (text, index) => { index, text }

/-- A line that ended in a line feed, without a carriage return at its end. -/
def dropReturn (line : List Char) : List Char :=
  if line.getLast? = some '\r' then line.dropLast else line

/-- The pieces between line feeds as lines: the last piece is a line only if it is not empty. -/
def ofPieces : List (List Char) → List (List Char)
  | [] => []
  | [last] => if last.isEmpty then [] else [last]
  | piece :: rest => dropReturn piece :: ofPieces rest

/-- The lines of a text. -/
def ofText (text : String) : List SourceLine :=
  ofTexts ((ofPieces (text.toList.splitOn '\n')).map String.ofList)

theorem map_text_ofTexts (texts : List String) : (ofTexts texts).map text = texts := by
  simp [ofTexts, List.map_map, Function.comp_def]

end SourceLine
end LayoutRecovery
