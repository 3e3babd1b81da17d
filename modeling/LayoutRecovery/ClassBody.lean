import LayoutRecovery.Cursor
import LayoutRecovery.Member

/-!
# Class bodies

A class body is a list of members, remarks and empty lines in the order of the text.  Remarks keep
what they are about, so that a body can be examined without reading its text.
-/

namespace LayoutRecovery

/-- A comment line that stands by itself. -/
inductive Remark where
  /-- A member conflicts with the one before it. -/
  | conflict (conflict : Conflict)
  /-- A loop starts or ends at a line of the input. -/
  | loop (line : String)
  /-- The input line that the items above it come from. -/
  | source (line : String)
  /-- The size of everything declared so far. -/
  | accumulated (size : Size)
  /-- The declared size is reached by padding. -/
  | sizeReached (declared : Size)
  /-- The declared size is reached without padding. -/
  | sizeExact
  /-- The declared size is exceeded. -/
  | sizeExceeded (accumulated declared : Size)
  /-- No size is declared. -/
  | sizeUndeclared
  /-- How many lines declared members. -/
  | parsedLines (count : Nat)
  deriving DecidableEq

/-- One piece of a class body. -/
inductive Item where
  /-- An empty line. -/
  | blank
  /-- A comment line. -/
  | remark (remark : Remark)
  /-- A declared member. -/
  | member (member : Member)
  deriving DecidableEq

namespace Remark

/-- The text of a remark. -/
def text : Remark → String
  | conflict found => "WARNING: " ++ found.remark
  | loop line => "comment: 'do/while' loop start/end detected, origin: " ++ line
  | source line => "line: " ++ line
  | accumulated size => "accumulated size: " ++ size.text ++ " (" ++ size.hex ++ ")"
  | sizeReached declared => "total size matches: " ++ declared.hex
  | sizeExact => "total size matches, no end padding needed"
  | sizeExceeded total declared =>
      "WARNING: accumulated size " ++ total.text ++ " exceeds the declared total size "
        ++ declared.text ++ " by " ++ toString (total.toNat - declared.toNat) ++ " bytes"
  | sizeUndeclared => "end padding can only be added when the total size is declared with #size"
  | parsedLines count => "parsed fields: " ++ toString count

end Remark

namespace Item

/-- The text of a piece, with its line ends. -/
def render : Item → String
  | blank => "\n"
  | remark comment => Member.commentLine comment.text
  | member declared => declared.render

/-- The member that a piece declares. -/
def member? : Item → Option Member
  | member declared => some declared
  | _ => none

/-- The text of a list of pieces. -/
def renderAll (items : List Item) : String :=
  String.join (items.map render)

/-- The members of a list of pieces, in order. -/
def members (items : List Item) : List Member :=
  items.filterMap member?

@[simp]
theorem members_append (left right : List Item) :
    members (left ++ right) = members left ++ members right := by
  simp [members]

theorem renderAll_append (left right : List Item) :
    renderAll (left ++ right) = renderAll left ++ renderAll right := by
  rw [renderAll, List.map_append, String.join_append]
  rfl

theorem renderAll_flatMap {α : Type} (parts : List α) (items : α → List Item) :
    renderAll (parts.flatMap items) =
      String.join (parts.map fun part => renderAll (items part)) := by
  induction parts with
  | nil => rfl
  | cons part rest ih =>
      rw [List.flatMap_cons, renderAll_append, ih, List.map_cons, String.join_cons]

end Item
end LayoutRecovery
