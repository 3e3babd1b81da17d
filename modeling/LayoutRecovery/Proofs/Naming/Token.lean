import LayoutRecovery.Proofs.Addend.Remainder
import LayoutRecovery.Proofs.Naming.Label
import LayoutRecovery.Reading.Assignment

/-!
# Ends of names as tokens

The end of a name is made of ASCII letters, digits and underscores, whatever text the addend was
read from.  Offsets are written in hexadecimal digits, and a symbol is a token of such characters
already in the text.
-/

namespace LayoutRecovery

namespace Text

/-- A text of ASCII letters, digits and underscores only. -/
def IsToken (text : List Char) : Prop :=
  ∀ character ∈ text, isIdentifierCharacter character = true

instance (text : List Char) : Decidable (IsToken text) :=
  List.decidableBAll (fun character => isIdentifierCharacter character = true) text

theorem isToken_append {left right : List Char} :
    IsToken (left ++ right) ↔ IsToken left ∧ IsToken right :=
  List.forall_mem_append

theorem IsToken.notMem {text : List Char} (token : IsToken text) {character : Char}
    (foreign : isIdentifierCharacter character = false) : character ∉ text := by
  intro inside
  rw [token character inside] at foreign
  cases foreign

end Text

open Text (IsToken)

namespace Numeral

theorem isToken_upperHex (number : Nat) : IsToken (upperHex number) := by
  have digits : ∀ value < 16, Text.isIdentifierCharacter (upperDigit value) = true := by decide
  intro character inside
  obtain ⟨value, small, rfl⟩ := exists_upperDigit_of_mem inside
  exact digits value small

theorem isToken_word32Hex (word : UInt32) : IsToken (word32Hex word).toList := by
  have zeros : ∀ count, IsToken (List.replicate count '0') := by
    intro count character inside
    rw [List.eq_of_mem_replicate inside]
    decide
  rw [word32Hex, String.toList_ofList, List.leftpad]
  exact Text.isToken_append.mpr ⟨zeros _, isToken_upperHex _⟩

end Numeral

theorem Offset.isToken_suffix (offset : Offset) : IsToken offset.suffix.toList := by
  rw [toList_suffix]
  refine Text.isToken_append.mpr ⟨?_, Numeral.isToken_upperHex _⟩
  split
  · decide
  · exact List.forall_mem_nil _

namespace Addend

/-- An addend that can be read off a text: an offset or a token. -/
inductive Readable : Addend → Prop
  | literal (offset : Offset) : Readable (.literal offset)
  | symbolic {token : String} (filled : token ≠ "") (plain : IsToken token.toList) :
      Readable (.symbolic token)

theorem Readable.isToken_suffix {addend : Addend} (readable : addend.Readable) :
    IsToken addend.suffix.toList := by
  cases readable with
  | literal offset => exact offset.isToken_suffix
  | symbolic filled plain =>
      rw [suffix, String.toList_append]
      exact Text.isToken_append.mpr ⟨plain, by decide⟩

/-- What is moved on by half a wide value is still an offset or a token. -/
theorem Readable.secondHalf {addend : Addend} (readable : addend.Readable) :
    (Assignment.secondHalf addend).Readable := by
  cases readable with
  | literal offset => exact .literal _
  | symbolic filled plain =>
      refine .symbolic (fun empty => filled (String.append_eq_empty_iff.mp empty).1) ?_
      rw [String.toList_append]
      exact Text.isToken_append.mpr ⟨plain, by decide⟩

/-! ## What is read off a text -/

theorem Occurrence.Within.readable_symbolic {occurrence : Occurrence} {text : List Char}
    (within : occurrence.Within text) : (symbolic (String.ofList occurrence.token)).Readable := by
  obtain ⟨tail, -, name, behind, -, -, signs⟩ := within
  refine .symbolic (fun empty => signs.filled ?_) ?_
  · simpa using empty
  · rw [String.toList_ofList]
    exact signs.identifier

theorem Occurrence.Within.readable_ofOccurrence {occurrence : Occurrence} {text : List Char}
    (within : occurrence.Within text) (scale : Nat) : (ofOccurrence occurrence scale).Readable := by
  unfold ofOccurrence
  split
  · exact .literal _
  · exact within.readable_symbolic

theorem readable_of_find? {text : List Char} {addend : Addend} (found : find? text = some addend) :
    addend.Readable := by
  unfold find? at found
  split at found
  · next width occurrence scaled =>
    obtain ⟨inner, within, -, same⟩ := exists_within_of_scaled? scaled
    obtain rfl := Option.some.inj found
    rw [same]
    split
    · exact within.readable_symbolic
    · exact within.readable_ofOccurrence width.bytes
  · obtain ⟨occurrence, read, rfl⟩ := Option.map_eq_some_iff.mp found
    exact (within_of_plainFrom? read).readable_ofOccurrence 1

/-- The addend of a text is an offset or a token, whatever else the text holds. -/
theorem readable_ofText (text : List Char) : (ofText text).Readable := by
  unfold ofText
  cases found : find? text with
  | none => exact .literal _
  | some addend => exact readable_of_find? found

end Addend

end LayoutRecovery
