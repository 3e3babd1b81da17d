import LayoutRecovery.Reading.Basic

/-!
# String copies

A copy `strncpy(v1 + N, "text", SIZE);` declares a string member of the copied size.  The line is
taken apart at its commas, of which it must have exactly two.
-/

namespace LayoutRecovery

/-- The arguments of a string copy. -/
structure Copy where
  /-- Where it writes. -/
  target : Addend
  /-- What it copies. -/
  source : String
  /-- How much it copies, as it is written. -/
  sizeText : String
  deriving DecidableEq

namespace Copy

/-- A size argument without the end of the call behind it. -/
def sizeArgument (argument : List Char) : List Char :=
  Text.trim
    (Text.dropEndWhile (· == ')') (Text.dropEndWhile (· == ';') (Text.trim argument)))

/-- The arguments of a copy, or how many pieces the line has instead of three. -/
def read (line : List Char) : Except Nat Copy :=
  match line.splitOn ',' with
  | [target, source, size] =>
      .ok
        { target := Addend.ofText target
          source := String.ofList (Text.trim source)
          sizeText := String.ofList (sizeArgument size) }
  | pieces => .error pieces.length

/-- The size that a size argument writes; negative numbers are none. -/
def size? (copy : Copy) : Option Size :=
  (IntLiteral.read? copy.sizeText.toList).bind fun literal =>
    if 0 ≤ literal.value.toInt then some (Size.clamp literal.value.toInt.toNat) else none

/-- The member of a copy. -/
def member (copy : Copy) (stem : String) : Member :=
  let origin := "origin: " ++ copy.source
  match copy.size? with
  | some size => (Member.atAddend stem copy.target .string size).withDetail origin
  | none =>
      let unsized := (Member.atAddend stem copy.target .string Size.zero).withDetail origin
      { unsized.withNote ("size `" ++ copy.sizeText ++ "` is not a literal") with
        sizeLabel := some "unknown" }

/-- The reading of a copy, with the line behind it. -/
def reading (copy : Copy) (context : Context) (next : Option SourceLine) : Reading :=
  let member := copy.member context.memberStem
  let terminator := next.any fun line => LineKind.isZeroWrite line.characters
  if context.heuristics.skipTerminators && terminator then .terminated member
  else .members [] [member]

end Copy
end LayoutRecovery
