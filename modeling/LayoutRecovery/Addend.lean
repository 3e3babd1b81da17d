import LayoutRecovery.CastWidth
import LayoutRecovery.Literal.Integer
import LayoutRecovery.Offset
import LayoutRecovery.Text.DecimalDigit
import LayoutRecovery.Text.WordCharacter

/-!
# Pointer addends

The offset that a line adds to a tracked pointer is read from two shapes: a scaled addend
`((TYPE *)v1 + N)` counts in elements of the cast's width, a plain addend `v1 + N` in bytes.  The
leftmost scaled addend of a text decides, and without one the leftmost plain addend.  An addend
that is no literal is kept as a symbol.
-/

namespace LayoutRecovery

/-- What is added to a tracked pointer. -/
inductive Addend where
  /-- A byte offset. -/
  | literal (offset : Offset)
  /-- A token that is not a literal. -/
  | symbolic (token : String)
  deriving DecidableEq

namespace Addend

/-- The offset at which a member is placed; a symbol counts as the start of the structure. -/
def offset : Addend → Offset
  | literal offset => offset
  | symbolic _ => Offset.start

/-- The end of a member's name. -/
def suffix : Addend → String
  | literal offset => offset.suffix
  | symbolic token => token ++ "_int"

/-- A sign and a token found behind a tracked pointer. -/
structure Occurrence where
  /-- Whether the sign is a minus. -/
  negative : Bool
  /-- The letters, digits and underscores behind the sign. -/
  token : List Char
  /-- The text behind the token. -/
  rest : List Char
  deriving DecidableEq

/-- The addend that an occurrence means when its token counts in elements of `scale` bytes. -/
def ofOccurrence (occurrence : Occurrence) (scale : Nat) : Addend :=
  match IntLiteral.read? occurrence.token with
  | some number =>
      let magnitude := number.value.toInt * scale
      literal (Offset.wrap (if occurrence.negative then -magnitude else magnitude))
  | none => symbolic (String.ofList occurrence.token)

/-- What follows a tracked pointer, `a` or `v` with one or two digits, at the start of a text. -/
def pointer? : List Char → Option (List Char)
  | letter :: digit :: rest =>
      if (letter = 'a' ∨ letter = 'v') ∧ Text.isDecimalDigit digit then
        match rest with
        | second :: more => some (if Text.isDecimalDigit second then more else rest)
        | [] => some []
      else none
  | _ => none

/-- The sign and the token at the start of a text, each after optional blanks. -/
def signedToken? (text : List Char) : Option Occurrence :=
  match Text.trimStart text with
  | sign :: behind =>
      if sign = '+' ∨ sign = '-' then
        let operand := Text.trimStart behind
        let token := operand.takeWhile Text.isIdentifierCharacter
        if token = [] then none
        else some
          { negative := decide (sign = '-')
            token
            rest := operand.dropWhile Text.isIdentifierCharacter }
      else none
  | [] => none

/-- A plain addend at the start of a text. -/
def plainHere? (text : List Char) : Option Occurrence :=
  (pointer? text).bind signedToken?

/-- What follows a character at the start of a text and the blanks behind it. -/
def token? (expected : Char) (text : List Char) : Option (List Char) :=
  (Text.after? [expected] text).map Text.trimStart

/-- The type name at the start of a text, and what follows it and the blanks behind it. -/
def typeName? : List Char → Option (List Char × List Char)
  | [] => none
  | first :: rest =>
      if Text.isIdentifierStart first then
        let inName := fun character => Text.isIdentifierCharacter character || character == ' '
        some (first :: rest.takeWhile inName, Text.trimStart (rest.dropWhile inName))
      else none

/-- A scaled addend at the start of a text, with the width of its cast. -/
def scaledHere? (text : List Char) : Option (CastWidth × Occurrence) := do
  let opened ← token? '(' text
  let inner ← token? '(' opened
  let (name, behindName) ← typeName? inner
  let behindStar ← token? '*' behindName
  let behindCast ← token? ')' behindStar
  let occurrence ← plainHere? behindCast
  let behind ← Text.after? [')'] (Text.trimStart occurrence.rest)
  return (CastWidth.detect name, { occurrence with rest := behind })

/-- The leftmost scaled addend of a text. -/
def scaled? : List Char → Option (CastWidth × Occurrence)
  | [] => none
  | character :: rest => (scaledHere? (character :: rest)).or (scaled? rest)

/-- The leftmost plain addend of a text; its pointer starts a word. -/
def plainFrom? (insideWord : Bool) : List Char → Option Occurrence
  | [] => none
  | character :: rest =>
      (if insideWord then none else plainHere? (character :: rest)).or
        (plainFrom? (Text.isWordCharacter character) rest)

/-- The leftmost plain addend of a whole text. -/
def plain? (text : List Char) : Option Occurrence :=
  plainFrom? false text

/-- The addend of a text, if it has one; a cast of unknown width leaves the token a symbol. -/
def find? (text : List Char) : Option Addend :=
  match scaled? text with
  | some (width, occurrence) =>
      some (if width = .unknown then symbolic (String.ofList occurrence.token)
        else ofOccurrence occurrence width.bytes)
  | none => (plain? text).map fun occurrence => ofOccurrence occurrence 1

/-- The addend of a text, which is the offset zero if it has none. -/
def ofText (text : List Char) : Addend :=
  (find? text).getD (literal Offset.start)

end Addend
end LayoutRecovery
