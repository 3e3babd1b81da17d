import LayoutRecovery.Numeral

/-!
# JSON tokens

A text is cut into punctuation, strings and words by an automaton that takes one character at a
time.  Strings keep the code units that their escapes write; whether these make up text is asked
only where the string is used.
-/

namespace LayoutRecovery
namespace Json

/-- One token of a JSON text. -/
inductive Token where
  /-- An opening brace. -/
  | openObject
  /-- A closing brace. -/
  | closeObject
  /-- An opening bracket. -/
  | openArray
  /-- A closing bracket. -/
  | closeArray
  /-- A comma. -/
  | comma
  /-- A colon. -/
  | colon
  /-- A string by its code units; characters beyond 16 bits are one unit unless escaped as two. -/
  | string (units : List Nat)
  /-- A run of other characters: a number or a literal name. -/
  | word (characters : List Char)
  deriving DecidableEq

/-- What the automaton is in the middle of. -/
inductive Scanning where
  /-- White space or the start of a token. -/
  | between
  /-- A word, its characters last to first. -/
  | word (reversed : List Char)
  /-- A string, its code units last to first. -/
  | string (reversed : List Nat)
  /-- The character behind a backslash in a string. -/
  | escape (reversed : List Nat)
  /-- The digits of a numeric escape in a string, of which some are missing. -/
  | digits (missing value : Nat) (reversed : List Nat)
  deriving DecidableEq

/-- The automaton between two characters. -/
structure Scanner where
  /-- The finished tokens, last to first. -/
  done : List Token
  /-- What it is in the middle of. -/
  state : Scanning

namespace Scanner

/-- The automaton before the first character. -/
def start : Scanner := ⟨[], .between⟩

/-- The token that a single character makes. -/
def punctuation? : Char → Option Token
  | '\x7b' => some .openObject
  | '\x7d' => some .closeObject
  | '[' => some .openArray
  | ']' => some .closeArray
  | ',' => some .comma
  | ':' => some .colon
  | _ => none

/-- Whether a character separates tokens and means nothing else. -/
def isSpace (character : Char) : Bool :=
  character == ' ' || character == '\n' || character == '\t' || character == '\r'

/-- The finished tokens once a word in progress has ended. -/
def settled (scanner : Scanner) : List Token :=
  match scanner.state with
  | .word reversed => .word reversed.reverse :: scanner.done
  | _ => scanner.done

/-- The step over a character outside strings. -/
def stepOutside (scanner : Scanner) (character : Char) : Scanner :=
  match punctuation? character with
  | some token => ⟨token :: scanner.settled, .between⟩
  | none =>
      if isSpace character then ⟨scanner.settled, .between⟩
      else if character = '"' then ⟨scanner.settled, .string []⟩
      else
        match scanner.state with
        | .word reversed => { scanner with state := .word (character :: reversed) }
        | _ => { scanner with state := .word [character] }

/-- The code unit that a one-letter escape writes. -/
def simpleEscape? : Char → Option Nat
  | '"' => some 0x22
  | '\\' => some 0x5C
  | '/' => some 0x2F
  | 'b' => some 0x8
  | 'f' => some 0xC
  | 'n' => some 0xA
  | 'r' => some 0xD
  | 't' => some 0x9
  | _ => none

/-- The step over one character; none if no JSON text has it here. -/
def step? (scanner : Scanner) (character : Char) : Option Scanner :=
  match scanner.state with
  | .between => some (scanner.stepOutside character)
  | .word _ => some (scanner.stepOutside character)
  | .string reversed =>
      if character = '"' then some ⟨.string reversed.reverse :: scanner.done, .between⟩
      else if character = '\\' then some { scanner with state := .escape reversed }
      else if character.toNat < 0x20 then none
      else some { scanner with state := .string (character.toNat :: reversed) }
  | .escape reversed =>
      if character = 'u' then some { scanner with state := .digits 4 0 reversed }
      else (simpleEscape? character).map fun unit =>
        { scanner with state := .string (unit :: reversed) }
  | .digits missing value reversed =>
      (Numeral.digitValue? 16 character).map fun digit =>
        let unit := value * 16 + digit
        if missing = 1 then { scanner with state := .string (unit :: reversed) }
        else { scanner with state := .digits (missing - 1) unit reversed }

/-- The tokens of a text that has ended; none inside a string. -/
def finish? (scanner : Scanner) : Option (List Token) :=
  match scanner.state with
  | .between => some scanner.settled.reverse
  | .word _ => some scanner.settled.reverse
  | _ => none

end Scanner

/-- The tokens of a text. -/
def tokens? (text : List Char) : Option (List Token) :=
  (text.foldlM Scanner.step? Scanner.start).bind Scanner.finish?

end Json
end LayoutRecovery
