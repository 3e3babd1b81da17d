import LayoutRecovery.Context
import LayoutRecovery.Proofs.Literal.Row

/-!
# Labels of members

What the names of members say.  A padding is named after its offset; a decoded member and the
placeholder of a call are named after the addend of their pointer.  The name gives the label back:
the four starts of names differ in their first letter, hexadecimal digits determine their number,
and only a symbol puts an underscore into the end of a name.
-/

namespace LayoutRecovery

namespace Numeral

/-- The upper-case hexadecimal digit of a number below sixteen. -/
def upperDigit (value : Nat) : Char :=
  value.digitChar.toUpper

theorem upperHex_of_lt {number : Nat} (small : number < 16) :
    upperHex number = [upperDigit number] := by
  rw [upperHex, Nat.toDigits_of_lt_base small]
  rfl

theorem upperHex_of_le {number : Nat} (large : 16 ≤ number) :
    upperHex number = upperHex (number / 16) ++ [upperDigit (number % 16)] := by
  rw [upperHex, Nat.toDigits_of_base_le (by decide) large, List.map_append]
  rfl

theorem exists_upperDigit_of_mem {number : Nat} {character : Char}
    (inside : character ∈ upperHex number) : ∃ value < 16, character = upperDigit value := by
  induction number using Nat.strongRecOn with
  | ind number ih =>
      rcases Nat.lt_or_ge number 16 with small | large
      · rw [upperHex_of_lt small, List.mem_singleton] at inside
        exact ⟨number, small, inside⟩
      · rw [upperHex_of_le large, List.mem_append, List.mem_singleton] at inside
        rcases inside with front | last
        · exact ih (number / 16) (by omega) front
        · exact ⟨number % 16, Nat.mod_lt _ (by decide), last⟩

theorem not_mem_upperHex {character : Char} (foreign : ∀ value < 16, upperDigit value ≠ character)
    (number : Nat) : character ∉ upperHex number := by
  intro inside
  obtain ⟨value, small, rfl⟩ := exists_upperDigit_of_mem inside
  exact foreign value small rfl

theorem upperHex_injective {left right : Nat} (same : upperHex left = upperHex right) :
    left = right := by
  have row := Row.upperHex left
  rw [same] at row
  exact row.unique (by decide) (Row.upperHex right)

end Numeral

namespace Offset

theorem toList_suffix (offset : Offset) :
    offset.suffix.toList =
      (if offset.toInt < 0 then "neg".toList else []) ++ Numeral.upperHex offset.toInt.natAbs := by
  unfold suffix
  split <;> simp

theorem not_mem_suffix {character : Char}
    (foreign : ∀ value < 16, Numeral.upperDigit value ≠ character)
    (unsigned : character ∉ "neg".toList) (offset : Offset) :
    character ∉ offset.suffix.toList := by
  rw [toList_suffix, List.mem_append]
  rintro (sign | digit)
  · split at sign
    · exact unsigned sign
    · cases sign
  · exact Numeral.not_mem_upperHex foreign _ digit

theorem underscore_not_mem_suffix (offset : Offset) : '_' ∉ offset.suffix.toList :=
  not_mem_suffix (by decide) (by decide) offset

theorem suffix_injective {left right : Offset} (same : left.suffix = right.suffix) :
    left = right := by
  have texts := congrArg String.toList same
  rw [toList_suffix, toList_suffix] at texts
  have unsigned : ∀ number rest, Numeral.upperHex number ≠ "neg".toList ++ rest := by
    intro number rest shape
    have foreign : ∀ value < 16, Numeral.upperDigit value ≠ 'n' := by decide
    refine Numeral.not_mem_upperHex foreign number ?_
    rw [shape]
    simp
  refine toInt_injective ?_
  split at texts
  · next left_negative =>
    split at texts
    · next right_negative =>
      have digits := Numeral.upperHex_injective (List.append_cancel_left texts)
      omega
    · exact absurd texts.symm (unsigned _ _)
  · next left_positive =>
    split at texts
    · exact absurd texts (unsigned _ _)
    · next right_positive =>
      have digits := Numeral.upperHex_injective texts
      omega

end Offset

/-- The end of a name determines the addend. -/
theorem Addend.suffix_injective {left right : Addend} (same : left.suffix = right.suffix) :
    left = right := by
  have apart : ∀ (offset : Offset) (token : String), offset.suffix ≠ token ++ "_int" := by
    intro offset token shape
    refine offset.underscore_not_mem_suffix ?_
    rw [shape]
    simp
  cases left with
  | literal left =>
      cases right with
      | literal right => exact congrArg literal (Offset.suffix_injective same)
      | symbolic token => exact absurd same (apart left token)
  | symbolic left =>
      cases right with
      | literal offset => exact absurd same.symm (apart offset left)
      | symbolic right => exact congrArg symbolic ((String.append_left_inj "_int").mp same)

/-- What the name of a member says, in a class whose decoded members are called unknown. -/
inductive Label where
  /-- A padding in front of a member. -/
  | padding (offset : Offset)
  /-- A decoded member. -/
  | decoded (addend : Addend)
  /-- The placeholder of a call. -/
  | placeholder (addend : Addend)
  /-- The padding at the end of the structure. -/
  | closing (offset : Offset)
  deriving DecidableEq

namespace Label

/-- The name that a label makes. -/
def name : Label → String
  | padding offset => "Padding" ++ offset.suffix
  | decoded addend => Context.memberName "Unknown" addend
  | placeholder addend => Context.memberName "Subroutine" addend
  | closing offset => "EndPadding" ++ offset.suffix

/-- Where a member with a label stands. -/
def offset : Label → Offset
  | padding offset => offset
  | decoded addend => addend.offset
  | placeholder addend => addend.offset
  | closing offset => offset

/-- How the names of a kind of label start. -/
def stem : Label → String
  | padding _ => "Padding"
  | decoded _ => "Unknown"
  | placeholder _ => "Subroutine"
  | closing _ => "EndPadding"

theorem head?_name (label : Label) : label.name.toList.head? = label.stem.toList.head? := by
  cases label <;> simp [name, stem, Context.memberName]

/-- Names of different kinds start with different letters. -/
theorem stem_eq_of_name_eq {left right : Label} (same : left.name = right.name) :
    left.stem = right.stem := by
  have heads : left.stem.toList.head? = right.stem.toList.head? := by
    rw [← head?_name, ← head?_name, same]
  cases left <;> cases right <;> simp only [stem] at heads ⊢ <;> exact absurd heads (by decide)

/-- A name determines the label that makes it. -/
theorem name_injective {left right : Label} (same : left.name = right.name) : left = right := by
  have stems := stem_eq_of_name_eq same
  cases left with
  | padding left =>
      cases right with
      | padding right =>
          exact congrArg padding (Offset.suffix_injective ((String.append_right_inj _).mp same))
      | _ => simp [stem] at stems
  | decoded left =>
      cases right with
      | decoded right =>
          exact congrArg decoded (Addend.suffix_injective ((String.append_right_inj _).mp same))
      | _ => simp [stem] at stems
  | placeholder left =>
      cases right with
      | placeholder right =>
          exact congrArg placeholder (Addend.suffix_injective ((String.append_right_inj _).mp same))
      | _ => simp [stem] at stems
  | closing left =>
      cases right with
      | closing right =>
          exact congrArg closing (Offset.suffix_injective ((String.append_right_inj _).mp same))
      | _ => simp [stem] at stems

end Label

end LayoutRecovery
