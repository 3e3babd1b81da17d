import LayoutRecovery.Json.Token

/-!
# JSON values

Values are built from tokens by a machine with a stack of the arrays and objects that are still
open, one token at a time.  Objects keep all their entries in order, repeated keys included.
-/

namespace LayoutRecovery

/-- A JSON value. -/
inductive Json where
  /-- The empty value. -/
  | null
  /-- A truth value. -/
  | boolean (value : Bool)
  /-- A number written without sign, fraction and exponent. -/
  | natural (value : Nat)
  /-- Any other number. -/
  | otherNumber
  /-- A string by its code units. -/
  | string (units : List Nat)
  /-- A row of values. -/
  | array (values : List Json)
  /-- A row of values with keys. -/
  | object (entries : List (List Nat × Json))
  deriving Inhabited

namespace Json

/-- The text that code units make up; surrogates count only in pairs. -/
def textOfUnits? : List Nat → Option (List Char)
  | [] => some []
  | unit :: rest =>
      if 0xD800 ≤ unit ∧ unit < 0xDC00 then
        match rest with
        | second :: others =>
            if 0xDC00 ≤ second ∧ second < 0xE000 then
              (textOfUnits? others).map
                (Char.ofNat (0x10000 + (unit - 0xD800) * 0x400 + (second - 0xDC00)) :: ·)
            else none
        | [] => none
      else if 0xDC00 ≤ unit ∧ unit < 0xE000 then none
      else (textOfUnits? rest).map (Char.ofNat unit :: ·)

/-- The text of a string value. -/
def text? : Json → Option String
  | string units => (textOfUnits? units).map String.ofList
  | _ => none

/-- Whether a text is the exponent of a number, or nothing. -/
def isExponent : List Char → Bool
  | [] => true
  | mark :: rest =>
      (mark == 'e' || mark == 'E') &&
        let digits :=
          match rest with
          | '+' :: digits => digits
          | '-' :: digits => digits
          | digits => digits
        !digits.isEmpty && digits.all Char.isDigit

/-- Whether a text is the fraction and the exponent of a number; either may be missing. -/
def isNumberTail : List Char → Bool
  | '.' :: rest =>
      !(rest.takeWhile Char.isDigit).isEmpty && isExponent (rest.dropWhile Char.isDigit)
  | rest => isExponent rest

/-- The number that a word writes: digits without leading zeros, then fraction and exponent. -/
def number? (word : List Char) : Option Json :=
  let magnitude :=
    match word with
    | '-' :: rest => rest
    | rest => rest
  let whole := magnitude.takeWhile Char.isDigit
  let tail := magnitude.dropWhile Char.isDigit
  let leading := decide (1 < whole.length) && whole.head? == some '0'
  if whole.isEmpty || leading || !isNumberTail tail then none
  else if magnitude.length = word.length ∧ tail = [] then (Numeral.read? 10 whole).map natural
  else some otherNumber

/-- The value that a word writes. -/
def ofWord? (word : List Char) : Option Json :=
  if word = "null".toList then some null
  else if word = "true".toList then some (boolean true)
  else if word = "false".toList then some (boolean false)
  else number? word

/-- An array or object that is still open, its contents last to first. -/
inductive Frame where
  /-- An array. -/
  | array (reversed : List Json)
  /-- An object, with the key whose value is being read. -/
  | object (reversed : List (List Nat × Json)) (key : List Nat)

/-- What has to come next. -/
inductive Expected where
  /-- A value. -/
  | value
  /-- A value, or the end of an array that has none. -/
  | firstValue
  /-- A key. -/
  | key
  /-- A key, or the end of an object that has none. -/
  | firstKey
  /-- The colon behind a key. -/
  | colon
  /-- A comma or the end of the innermost array or object. -/
  | separator

/-- The machine between two tokens. -/
structure Builder where
  /-- What is still open, the innermost first. -/
  stack : List Frame
  /-- What has to come next. -/
  expected : Expected
  /-- The finished value, once nothing is open. -/
  result : Option Json

namespace Builder

/-- The machine before the first token. -/
def start : Builder := ⟨[], .value, none⟩

/-- Puts a finished value where it belongs. -/
def add (builder : Builder) (value : Json) : Builder :=
  match builder.stack with
  | [] => { builder with expected := .separator, result := some value }
  | .array reversed :: outer =>
      { builder with stack := .array (value :: reversed) :: outer, expected := .separator }
  | .object reversed key :: outer =>
      { builder with
        stack := .object ((key, value) :: reversed) key :: outer, expected := .separator }

/-- Ends the innermost array. -/
def closeArray? (builder : Builder) : Option Builder :=
  match builder.stack with
  | .array reversed :: outer => some (add { builder with stack := outer } (.array reversed.reverse))
  | _ => none

/-- Ends the innermost object. -/
def closeObject? (builder : Builder) : Option Builder :=
  match builder.stack with
  | .object reversed _ :: outer =>
      some (add { builder with stack := outer } (.object reversed.reverse))
  | _ => none

/-- Goes on behind a comma. -/
def goOn? (builder : Builder) : Option Builder :=
  match builder.stack with
  | [] => none
  | .array _ :: _ => some { builder with expected := .value }
  | .object _ _ :: _ => some { builder with expected := .key }

/-- Sets the key of the innermost object. -/
def setKey? (builder : Builder) (key : List Nat) : Option Builder :=
  match builder.stack with
  | .object reversed _ :: outer =>
      some { builder with stack := .object reversed key :: outer, expected := .colon }
  | _ => none

/-- The step over a token at the start of a value. -/
def stepValue? (builder : Builder) : Token → Option Builder
  | .openArray =>
      some { builder with stack := .array [] :: builder.stack, expected := .firstValue }
  | .openObject =>
      some { builder with stack := .object [] [] :: builder.stack, expected := .firstKey }
  | .string units => some (builder.add (.string units))
  | .word characters => (ofWord? characters).map builder.add
  | _ => none

/-- The step over one token; none if no JSON text has it here. -/
def step? (builder : Builder) (token : Token) : Option Builder :=
  match builder.expected, token with
  | .value, token => builder.stepValue? token
  | .firstValue, .closeArray => builder.closeArray?
  | .firstValue, token => builder.stepValue? token
  | .key, .string units => builder.setKey? units
  | .firstKey, .string units => builder.setKey? units
  | .firstKey, .closeObject => builder.closeObject?
  | .colon, .colon => some { builder with expected := .value }
  | .separator, .comma => builder.goOn?
  | .separator, .closeArray => builder.closeArray?
  | .separator, .closeObject => builder.closeObject?
  | _, _ => none

/-- The value of a text that has ended. -/
def finish? (builder : Builder) : Option Json :=
  if builder.stack.isEmpty then builder.result else none

end Builder

/-- The value that a text writes. -/
def parse? (text : String) : Option Json :=
  (tokens? text.toList).bind fun tokens =>
    (tokens.foldlM Builder.step? Builder.start).bind Builder.finish?

end Json
end LayoutRecovery
