import LayoutRecovery.Proofs.Addend.Place

/-!
# Printed addends

A tracked pointer with an addend is printed as the name, the sign between blanks, and the token.
Behind a name that the text does not go on to spell, the sign and the token are read back, and the
token of a number gives the offset that the addend stands for.
-/

namespace LayoutRecovery

namespace Addend

/-- The names of the tracked pointers: `a` or `v` and a number from 0 to 15. -/
def pointers : List (List Char) :=
  ['a', 'v'].flatMap fun letter =>
    (List.range 16).map fun index => letter :: Nat.toDigits 10 index

/-- The sign of an addend, between blanks. -/
def signText (negative : Bool) : List Char :=
  [' ', if negative then '-' else '+', ' ']

/-- A tracked pointer with an addend. -/
def sumText (pointer : List Char) (negative : Bool) (token : List Char) : List Char :=
  pointer ++ (signText negative ++ token)

/-- The bytes that an addend stands for when its token counts in elements of some size. -/
def displacement (negative : Bool) (magnitude scale : Nat) : Int :=
  if negative then -(magnitude * scale) else magnitude * scale

/-! ## Names -/

/-- Whether a text is the letter of a pointer with one or two digits. -/
def isPointerName : List Char → Bool
  | [letter, digit] => (letter == 'a' || letter == 'v') && digit.isDigit
  | [letter, digit, second] =>
      (letter == 'a' || letter == 'v') && digit.isDigit && second.isDigit
  | _ => false

theorem isPointerName_of_mem {name : List Char} (tracked : name ∈ pointers) :
    isPointerName name = true := by
  have all : ∀ name ∈ pointers, isPointerName name = true := by decide
  exact all name tracked

theorem isTrackedName_of_isPointerName {name : List Char} (named : isPointerName name = true) :
    isTrackedName name = true := by
  unfold isPointerName at named
  split at named
  · next letter digit =>
    simp only [Bool.and_eq_true] at named
    simp [isTrackedName, named.1, Text.isDecimalDigit_of_isDigit named.2]
  · next letter digit second =>
    simp only [Bool.and_eq_true] at named
    simp [isTrackedName, named.1.1, Text.isDecimalDigit_of_isDigit named.1.2,
      Text.isDecimalDigit_of_isDigit named.2]
  · exact Bool.noConfusion named

end Addend

namespace LineKind

theorem mentionsPointer_append (front : List Char) {text : List Char}
    (mentioned : mentionsPointer text = true) : mentionsPointer (front ++ text) = true := by
  induction front with
  | nil => exact mentioned
  | cons first front ih =>
      cases shape : front ++ text with
      | nil => simp [shape, mentionsPointer] at ih
      | cons second rest =>
          rw [shape] at ih
          rw [List.cons_append, shape, mentionsPointer, ih, Bool.or_true]

theorem mentionsPointer_of_isPointerName {name : List Char}
    (named : Addend.isPointerName name = true) (rest : List Char) :
    mentionsPointer (name ++ rest) = true := by
  unfold Addend.isPointerName at named
  split at named
  · simp only [Bool.and_eq_true] at named
    simp [mentionsPointer, named.1, named.2]
  · simp only [Bool.and_eq_true] at named
    simp [mentionsPointer, named.1.1, named.1.2]
  · exact Bool.noConfusion named

end LineKind

namespace Addend

/-! ## Signs and tokens -/

theorem signs_signText (negative : Bool) {token : List Char} (filled : token ≠ [])
    (identifier : ∀ character ∈ token, Text.isIdentifierCharacter character = true)
    {rest : List Char} (stops : Stops rest) :
    Occurrence.Signs { negative, token, rest } (signText negative ++ (token ++ rest)) where
  shape := by
    have blank : ∀ character ∈ [' '], Text.isBlank character = true := by
      intro character inside
      rw [List.mem_singleton.mp inside]
      decide
    exact ⟨[' '], [' '], blank, blank, rfl⟩
  filled := filled
  identifier := identifier
  stops := stops

theorem plainHere?_append {pointer : List Char} (named : isPointerName pointer = true)
    (negative : Bool) {token : List Char} (filled : token ≠ [])
    (identifier : ∀ character ∈ token, Text.isIdentifierCharacter character = true)
    {rest : List Char} (stops : Stops rest) :
    plainHere? (sumText pointer negative token ++ rest) = some { negative, token, rest } := by
  refine plainHere?_eq_some_iff.mpr ⟨pointer, _, isTrackedName_of_isPointerName named, ?_,
    signs_signText negative filled identifier stops⟩
  simp [sumText]

/-- A token that writes a number stands for that many elements, reduced into the offsets. -/
theorem ofOccurrence_of_spells {token : List Char} {magnitude : Nat}
    (spells : IntLiteral.Spells token magnitude) (negative : Bool) (rest : List Char)
    (scale : Nat) :
    ofOccurrence { negative, token, rest } scale =
      literal (Offset.wrap (displacement negative magnitude scale)) := by
  obtain ⟨wide, found⟩ := spells.exists_read?
  have value : (Int64.ofInt magnitude).toInt = (magnitude : Int).bmod 0x10000000000000000 :=
    Int64.toInt_ofInt
  simp only [ofOccurrence, found, value, displacement]
  refine congrArg literal (Offset.toInt_injective ?_)
  rw [Offset.toInt_wrap, Offset.toInt_wrap]
  split
  · rw [← Int.neg_mul, ← Int.neg_mul, ← Int.bmod_mul_bmod, Int.bmod_neg_bmod, Int.bmod_mul_bmod]
  · exact Int.bmod_mul_bmod

end Addend

end LayoutRecovery
