/-!
# Columns

Texts filled up with spaces to a width, which count characters and never cut.
-/

namespace LayoutRecovery
namespace Text

/-- A text followed by spaces up to a width. -/
def padEnd (width : Nat) (text : String) : String :=
  text ++ String.ofList (List.replicate (width - text.length) ' ')

/-- A text preceded by spaces up to a width. -/
def padStart (width : Nat) (text : String) : String :=
  String.ofList (List.replicate (width - text.length) ' ') ++ text

end Text
end LayoutRecovery
