import LayoutRecovery.Reading.Basic

/-!
# Calls

A call that receives a pointer into the structure declares a member: of the type and size of a
declared subroutine, or else as many bytes as lie before the next write.
-/

namespace LayoutRecovery

/-- The parts of a call. -/
structure Call where
  /-- Where the pointer points. -/
  target : Addend
  /-- The name before the first parenthesis. -/
  callee : String
  /-- The line without white space at its ends. -/
  origin : String
  deriving DecidableEq

namespace Call

/-- The last word before the first parenthesis of a line, an equals sign ending words too. -/
def calleeName (line : List Char) : List Char :=
  let head := (Text.trim line).takeWhile (· != '(')
  let parts := head.splitOnP fun character => Text.isBlank character || character == '='
  ((parts.filter fun part => !part.isEmpty).getLast?).getD head

/-- The parts of a call on a line. -/
def ofLine (line : SourceLine) : Call :=
  { target := Addend.ofText line.characters
    callee := String.ofList (calleeName line.characters)
    origin := line.trimmed }

/-- The addend of the place a line writes to: of an assignment, only its left side counts. -/
def writeTarget? (line : List Char) : Option Addend :=
  match Text.cut " = ".toList line with
  | some (target, _) => Addend.find? (if LineKind.isAssignment line then target else line)
  | none => Addend.find? line

/-- The distance from an offset to the place the next line writes to, if it lies further on. -/
def distance? (offset : Offset) (next : Option SourceLine) : Option Size :=
  match next.bind fun line => writeTarget? line.characters with
  | some (.literal nextOffset) =>
      let distance := nextOffset.toInt - offset.toInt
      if 0 < distance ∧ distance ≤ Offset.maximum then some (Size.clamp distance.toNat) else none
  | _ => none

/-- The member of a call of a declared subroutine. -/
def expanded (call : Call) (subroutine : Subroutine) : Member :=
  let type := subroutine.targetType
  ((Member.atAddend type call.target (.named type) subroutine.size).withNote
    ("call to subroutine: " ++ call.callee ++ ", expanded as " ++ type)).withDetail
      ("origin: " ++ call.origin)

/-- The bytes that stand for a call of an unknown subroutine. -/
def placeholder (call : Call) (size : Option Size) : Member :=
  let bytes := Member.atAddend "Subroutine" call.target .bytes (size.getD Size.zero)
  { (((bytes.withNote ("call to subroutine: " ++ call.callee)).withNote
        "filling with bytes as there is no way to expand it for now").withDetail
          ("origin: " ++ call.origin)) with
    sizeLabel := if size.isNone then some "unknown" else none }

/-- The reading of a call line, with the line behind it. -/
def reading (context : Context) (line : SourceLine) (next : Option SourceLine) : Reading :=
  if context.heuristics.skipCaseCalls && LineKind.isCaseCall line.characters then
    .skipped "case normalization call"
  else
    let call := ofLine line
    match context.subroutines.find? line.characters with
    | some subroutine => .members [.blank] [call.expanded subroutine]
    | none => .members [.blank] [call.placeholder (distance? call.target.offset next)]

end Call
end LayoutRecovery
