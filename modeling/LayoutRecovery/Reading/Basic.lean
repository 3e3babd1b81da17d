import LayoutRecovery.Context

/-!
# Readings

What a body line turns out to say.  A reading only decodes: the members it declares are not yet
compared with the members before them.
-/

namespace LayoutRecovery

/-- What a body line says. -/
inductive Reading where
  /-- It declares members, with some pieces above them. -/
  | members (opening : List Item) (declared : List Member)
  /-- It declares a string, and the line behind it writes the terminator. -/
  | terminated (declared : Member)
  /-- It starts or ends a loop. -/
  | loop
  /-- It is left out on purpose. -/
  | skipped (reason : String)
  /-- It has the shape of its kind but cannot be decoded. -/
  | unparsed
  deriving DecidableEq

namespace Reading

/-- The members that a reading declares. -/
def declared : Reading → List Member
  | members _ declared => declared
  | terminated declared => [declared]
  | loop => []
  | skipped _ => []
  | unparsed => []

end Reading

namespace Member

/-- A member at an addend, named after it; a symbolic addend is pointed out. -/
def atAddend (stem : String) (addend : Addend) (type : MemberType) (size : Size) : Member :=
  { name := Context.memberName stem addend
    offset := addend.offset
    type
    size
    notes :=
      match addend with
      | .literal _ => []
      | .symbolic token => ["offset `" ++ token ++ "` is not a literal, placed at 0"] }

/-- A member with the end of its trailing comment. -/
def withDetail (member : Member) (detail : String) : Member :=
  { member with detail := some detail }

end Member
end LayoutRecovery
