import LayoutRecovery.Proofs.Addend.Shape
import Mathlib.Data.List.Infix

/-!
# What stands behind an addend

An addend is read from a place of the text where a tracked pointer, a sign and a token stand one
behind the other.  A scaled addend has to be closed by a parenthesis.  A plain one ends where its
token ends, and whatever stands there has no influence: a literal that starts a longer expression is
read as if it were all of it.
-/

namespace LayoutRecovery

namespace Addend

/-! ## Changing what follows -/

theorem isSome_signedToken?_append_cons (front : List Char) {first : Char}
    (word : Text.isIdentifierCharacter first = true) (rest other : List Char) :
    (signedToken? (front ++ first :: rest)).isSome =
      (signedToken? (front ++ first :: other)).isSome := by
  have visible := Text.isBlank_of_isIdentifierCharacter word
  have unsigned : ¬ (first = '+' ∨ first = '-') := by
    rintro (rfl | rfl) <;> exact absurd word (by decide)
  simp only [signedToken?, Text.trimStart_append_cons front visible]
  cases Text.trimStart front with
  | nil => simp [unsigned]
  | cons mark behind =>
      simp only [List.cons_append, Text.trimStart_append_cons behind visible]
      split
      · cases Text.trimStart behind with
        | nil => simp [word]
        | cons letter more => cases fits : Text.isIdentifierCharacter letter <;> simp [fits]
      · rfl

theorem isSome_plainHere?_append_cons {front : List Char} (filled : front ≠ []) {first : Char}
    (word : Text.isIdentifierCharacter first = true)
    (ends : Text.isDecimalDigit first = false) (rest other : List Char) :
    (plainHere? (front ++ first :: rest)).isSome =
      (plainHere? (front ++ first :: other)).isSome := by
  simp only [plainHere?, pointer?_append_cons filled ends]
  cases pointer? front with
  | none => rfl
  | some behind => exact isSome_signedToken?_append_cons behind word rest other

/-- What stands behind a token can be exchanged. -/
theorem Occurrence.Signs.exists_front {occurrence : Occurrence} {behind : List Char}
    (signs : occurrence.Signs behind) : ∃ front, behind = front ++ occurrence.rest ∧
      ∀ other, Stops other → { occurrence with rest := other }.Signs (front ++ other) := by
  obtain ⟨before, between, before_blank, between_blank, shape⟩ := signs.shape
  refine ⟨before ++ sign occurrence.negative :: (between ++ occurrence.token), ?_,
    fun other stops => ⟨⟨before, between, before_blank, between_blank, ?_⟩, signs.filled,
      signs.identifier, stops⟩⟩
  · simp [shape]
  · simp

/-- A part of a text up to the token of its leftmost plain addend, which is read there whatever
follows. -/
structure Leads (insideWord : Bool) (front : List Char) (occurrence : Occurrence) : Prop where
  pointer : ∃ before letter behind, front = before ++ letter :: behind ∧
    Text.isIdentifierCharacter letter = true ∧ Text.isDecimalDigit letter = false
  read : ∀ other, Stops other →
    plainFrom? insideWord (front ++ other) = some { occurrence with rest := other }

theorem exists_cons_of_isTrackedName {name : List Char} (tracked : isTrackedName name = true) :
    ∃ letter digits, name = letter :: digits ∧
      Text.isIdentifierCharacter letter = true ∧ Text.isDecimalDigit letter = false := by
  have letters : ∀ letter, letter = 'a' ∨ letter = 'v' →
      Text.isIdentifierCharacter letter = true ∧ Text.isDecimalDigit letter = false := by
    rintro letter (rfl | rfl) <;> decide
  unfold isTrackedName at tracked
  split at tracked
  · simp only [Bool.and_eq_true, Bool.or_eq_true, beq_iff_eq] at tracked
    exact ⟨_, _, rfl, letters _ tracked.1⟩
  · simp only [Bool.and_eq_true, Bool.or_eq_true, beq_iff_eq] at tracked
    exact ⟨_, _, rfl, letters _ tracked.1.1⟩
  · cases tracked

theorem exists_leads_of_heads {text : List Char} {occurrence : Occurrence}
    (heads : occurrence.Heads text) :
    ∃ front, text = front ++ occurrence.rest ∧ Leads false front occurrence := by
  obtain ⟨name, behind, tracked, rfl, signs⟩ := heads
  obtain ⟨front, rfl, exchanged⟩ := signs.exists_front
  obtain ⟨letter, digits, rfl, word, ends⟩ := exists_cons_of_isTrackedName tracked
  refine ⟨letter :: digits ++ front, (List.append_assoc ..).symm, ⟨[], letter, digits ++ front, rfl,
    word, ends⟩, fun other stops => ?_⟩
  rw [List.append_assoc]
  exact plainFrom?_of_plainHere?
    (plainHere?_eq_some_iff.mpr ⟨_, _, tracked, rfl, exchanged other stops⟩)

/-- The leftmost plain addend of a text does not depend on what stands behind its token. -/
theorem exists_leads_of_plainFrom? {insideWord : Bool} {text : List Char} {occurrence : Occurrence}
    (found : plainFrom? insideWord text = some occurrence) :
    ∃ front, text = front ++ occurrence.rest ∧ Leads insideWord front occurrence := by
  induction text generalizing insideWord with
  | nil => cases found
  | cons first rest ih =>
      rw [plainFrom?] at found
      cases here : if insideWord then none else plainHere? (first :: rest) with
      | some earliest =>
          rw [here, Option.some_or] at found
          obtain rfl := Option.some.inj found
          cases insideWord with
          | true => cases here
          | false => exact exists_leads_of_heads (plainHere?_eq_some_iff.mp here)
      | none =>
          rw [here, Option.none_or] at found
          obtain ⟨front, rfl, leads⟩ := ih found
          obtain ⟨before, letter, behind, rfl, word, ends⟩ := leads.pointer
          refine ⟨first :: (before ++ letter :: behind), rfl,
            ⟨first :: before, letter, behind, rfl, word, ends⟩, fun other stops => ?_⟩
          -- nothing starts here either, because the pointer behind decides that
          have still : (if insideWord then none
              else plainHere? (first :: (before ++ letter :: behind ++ other))) = none := by
            cases insideWord with
            | true => rfl
            | false =>
                have same := isSome_plainHere?_append_cons (List.cons_ne_nil first before) word ends
                  (behind ++ occurrence.rest) (behind ++ other)
                simp only [List.append_assoc, List.cons_append, Bool.false_eq_true, if_false]
                  at here same ⊢
                rw [here] at same
                exact Option.isNone_iff_eq_none.mp (Option.isSome_eq_false_iff.mp same.symm)
          rw [List.cons_append, plainFrom?, still, Option.none_or]
          exact leads.read other stops

/-! ## Scaled addends -/

theorem suffix_of_token? {expected : Char} {text rest : List Char}
    (found : token? expected text = some rest) : rest <:+ text := by
  obtain ⟨behind, starts, rfl⟩ := Option.map_eq_some_iff.mp found
  rw [Text.after?_eq_some_iff.mp starts]
  exact (List.dropWhile_suffix _).trans (List.suffix_append ..)

theorem suffix_of_typeName? {text name rest : List Char}
    (found : typeName? text = some (name, rest)) : rest <:+ text := by
  unfold typeName? at found
  split at found
  · cases found
  · next first more =>
    split at found
    · obtain ⟨-, rfl⟩ := Prod.mk.inj (Option.some.inj found)
      exact ((List.dropWhile_suffix _).trans (List.dropWhile_suffix _)).trans
        (List.suffix_cons first more)
    · cases found

theorem exists_within_of_scaledHere? {text : List Char} {width : CastWidth}
    {occurrence : Occurrence} (found : scaledHere? text = some (width, occurrence)) :
    ∃ inner : Occurrence, inner.Within text ∧
      Text.trimStart inner.rest = ')' :: occurrence.rest ∧
      occurrence = { inner with rest := occurrence.rest } := by
  simp only [scaledHere?, Option.bind_eq_bind, Option.bind_eq_some_iff] at found
  obtain ⟨opened, first, inner, second, ⟨name, behind_name⟩, typed, behind_star, third, behind_cast,
    fourth, addend, read, behind, closed, result⟩ := found
  obtain ⟨-, rfl⟩ := Prod.mk.inj (Option.some.inj result)
  have inside : behind_cast <:+ text :=
    (suffix_of_token? fourth).trans ((suffix_of_token? third).trans
      ((suffix_of_typeName? typed).trans
        ((suffix_of_token? second).trans (suffix_of_token? first))))
  exact ⟨addend, ⟨behind_cast, inside, plainHere?_eq_some_iff.mp read⟩,
    Text.after?_eq_some_iff.mp closed, rfl⟩

theorem Occurrence.Within.cons {occurrence : Occurrence} {text : List Char}
    (within : occurrence.Within text) (first : Char) : occurrence.Within (first :: text) := by
  obtain ⟨tail, inside, heads⟩ := within
  exact ⟨tail, inside.trans (List.suffix_cons first text), heads⟩

theorem exists_within_of_scaled? {text : List Char} {width : CastWidth}
    {occurrence : Occurrence} (found : scaled? text = some (width, occurrence)) :
    ∃ inner : Occurrence, inner.Within text ∧
      Text.trimStart inner.rest = ')' :: occurrence.rest ∧
      occurrence = { inner with rest := occurrence.rest } := by
  induction text with
  | nil => cases found
  | cons first rest ih =>
      rcases Option.or_eq_some_iff.mp found with here | ⟨-, later⟩
      · exact exists_within_of_scaledHere? here
      · obtain ⟨inner, within, closed, same⟩ := ih later
        exact ⟨inner, within.cons first, closed, same⟩

theorem within_of_plainFrom? {insideWord : Bool} {text : List Char} {occurrence : Occurrence}
    (found : plainFrom? insideWord text = some occurrence) : occurrence.Within text := by
  induction text generalizing insideWord with
  | nil => cases found
  | cons first rest ih =>
      rcases Option.or_eq_some_iff.mp found with here | ⟨-, later⟩
      · split at here
        · cases here
        · exact ⟨_, List.suffix_rfl, plainHere?_eq_some_iff.mp here⟩
      · exact (ih later).cons first

theorem Occurrence.Within.sign_mem {occurrence : Occurrence} {text : List Char}
    (within : occurrence.Within text) : sign occurrence.negative ∈ text := by
  obtain ⟨tail, inside, name, behind, -, rfl, signs⟩ := within
  obtain ⟨before, between, -, -, rfl⟩ := signs.shape
  exact inside.subset (by simp)

theorem plainFrom?_of_unsigned {text : List Char} (unsigned : ∀ negative, sign negative ∉ text)
    (insideWord : Bool) : plainFrom? insideWord text = none :=
  Option.eq_none_iff_forall_ne_some.mpr fun _ found =>
    unsigned _ (within_of_plainFrom? found).sign_mem

/-! ## The literal of a text -/

/-- A place of a text that gives it a literal addend, in elements of some size. -/
structure Occurrence.Gives (occurrence : Occurrence) (text : List Char) (scale : Nat)
    (offset : Offset) : Prop where
  within : occurrence.Within text
  counted : ofOccurrence occurrence scale = literal offset

/-- Whether an addend can end before a rest: at the end of the text, a parenthesis or a comma. -/
def closes (rest : List Char) : Bool :=
  match Text.trimStart rest with
  | [] => true
  | first :: _ => first == ')' || first == ','

/-- A literal addend is read from a place of the text.  A scaled addend is closed by a parenthesis.
Without one the literal counts bytes, and it stays the same however the text goes on behind it, as
long as no scaled addend comes up. -/
theorem exists_gives_of_find? {text : List Char} {offset : Offset}
    (found : find? text = some (literal offset)) :
    ∃ (occurrence : Occurrence) (scale : Nat), occurrence.Gives text scale offset ∧
      ((scaled? text).isSome = true → ∃ behind, Text.trimStart occurrence.rest = ')' :: behind) ∧
      (scaled? text = none → scale = 1 ∧ ∃ front, text = front ++ occurrence.rest ∧
        ∀ other, Stops other → scaled? (front ++ other) = none →
          find? (front ++ other) = some (literal offset)) := by
  unfold find? at found
  split at found
  · next width occurrence scaled =>
    obtain ⟨inner, within, closed, same⟩ := exists_within_of_scaled? scaled
    refine ⟨inner, width.bytes, ⟨within, ?_⟩, fun _ => ⟨_, closed⟩, fun unscaled => ?_⟩
    · have value := Option.some.inj found
      split at value
      · cases value
      · rw [same] at value
        exact value
    · rw [scaled] at unscaled
      cases unscaled
  · next unscaled =>
    obtain ⟨occurrence, read, value⟩ := Option.map_eq_some_iff.mp found
    obtain ⟨front, pieces, leads⟩ := exists_leads_of_plainFrom? read
    refine ⟨occurrence, 1, ⟨within_of_plainFrom? read, value⟩, fun scaled => ?_, fun _ =>
      ⟨rfl, front, pieces, fun other stops still => ?_⟩⟩
    · rw [unscaled] at scaled
      cases scaled
    · rw [find?, still, plain?, leads.read other stops]
      exact congrArg some value

/-- The literal of an indexed access is the number in front of the index. -/
theorem exists_gives_of_find?_indexed :
    let text := "*(_DWORD *)(v1 + 4 * v2)".toList
    ∃ (occurrence : Occurrence) (scale : Nat), occurrence.Gives text scale (Offset.wrap 4) ∧
      scale = 1 ∧ ∃ front, text = front ++ occurrence.rest ∧
        ∀ other, Stops other → scaled? (front ++ other) = none →
          find? (front ++ other) = some (literal (Offset.wrap 4)) := by
  intro text
  have found : find? text = some (literal (Offset.wrap 4)) := by decide +kernel
  obtain ⟨occurrence, scale, gives, -, continued⟩ := exists_gives_of_find? found
  have unscaled : scaled? text = none := by decide +kernel
  exact ⟨occurrence, scale, gives, continued unscaled⟩

/-- The places that can give a text an addend are those at which a plain addend starts. -/
theorem Occurrence.Within.exists_tail {occurrence : Occurrence} {text : List Char}
    (within : occurrence.Within text) : ∃ tail ∈ text.tails, plainHere? tail = some occurrence := by
  obtain ⟨tail, inside, heads⟩ := within
  exact ⟨tail, (List.mem_tails tail text).mpr inside, plainHere?_eq_some_iff.mpr heads⟩

/-- An indexed access has a literal addend although no literal in it ends the addend, and so has one
through a pointer of some width. -/
theorem not_closes_indexed :
    let bytes := "*(_DWORD *)(v1 + 4 * v2)".toList
    let elements := "*((_DWORD *)v1 + 4 * i)".toList
    (find? bytes = some (literal (Offset.wrap 4)) ∧
      ∀ (occurrence : Occurrence) (scale : Nat),
        occurrence.Gives bytes scale (Offset.wrap 4) → closes occurrence.rest = false) ∧
    find? elements = some (literal (Offset.wrap 4)) ∧
      ∀ (occurrence : Occurrence) (scale : Nat),
        occurrence.Gives elements scale (Offset.wrap 4) → closes occurrence.rest = false := by
  intro bytes elements
  have runs_on : ∀ text ∈ [bytes, elements], ∀ tail ∈ text.tails,
      (plainHere? tail).all (fun occurrence => !closes occurrence.rest) = true := by
    decide +kernel
  have open_end : ∀ text ∈ [bytes, elements], ∀ (occurrence : Occurrence) (scale : Nat),
      occurrence.Gives text scale (Offset.wrap 4) → closes occurrence.rest = false := by
    intro text listed occurrence scale gives
    obtain ⟨tail, inside, read⟩ := gives.within.exists_tail
    have found := runs_on text listed tail inside
    rw [read] at found
    simpa using found
  refine ⟨⟨?_, open_end bytes (by simp)⟩, ?_, open_end elements (by simp)⟩
  · decide +kernel
  · decide +kernel

end Addend
end LayoutRecovery
