import LayoutRecovery.Numeral
import LayoutRecovery.Text.Printable

/-!
# Quoted text

Text between double quotes with everything that would not show escaped: `\"`, `\\`, the control
characters that have a letter, and `\u` with hexadecimal digits for all others that are not
printable.
-/

namespace LayoutRecovery
namespace Text

/-- The form of one character inside quotes. -/
def escape (character : Char) : List Char :=
  match character with
  | '"' => ['\\', '"']
  | '\\' => ['\\', '\\']
  | '\n' => ['\\', 'n']
  | '\r' => ['\\', 'r']
  | '\t' => ['\\', 't']
  | '\x00' => ['\\', '0']
  | other =>
      if isPrintable other then [other]
      else "\\u\x7b".toList ++ Numeral.lowerHex other.toNat ++ ['\x7d']

/-- A text in double quotes. -/
def quoted (text : String) : String :=
  String.ofList ('"' :: text.toList.flatMap escape ++ ['"'])

end Text
end LayoutRecovery
