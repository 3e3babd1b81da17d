/-!
# Searching text

Occurrences of a fixed mark in a text: whether it occurs, what stands on either side of its first
occurrence, and what follows the last occurrence of a character.
-/

namespace LayoutRecovery
namespace Text

/-- Whether `mark` occurs in the text as a contiguous piece. -/
def occursIn (mark : List Char) : List Char → Bool
  | [] => mark.isEmpty
  | character :: rest => mark.isPrefixOf (character :: rest) || occursIn mark rest

theorem occursIn_iff {mark text : List Char} : occursIn mark text = true ↔ mark <:+: text := by
  induction text with
  | nil => simp [occursIn]
  | cons character rest ih => simp [occursIn, ih, List.infix_cons_iff]

/-- What follows `mark` when the text starts with it. -/
def after? (mark text : List Char) : Option (List Char) :=
  if mark.isPrefixOf text then some (text.drop mark.length) else none

theorem after?_eq_some_iff {mark text rest : List Char} :
    after? mark text = some rest ↔ text = mark ++ rest := by
  constructor
  · intro found
    unfold after? at found
    split at found
    · next starts =>
      obtain ⟨remainder, rfl⟩ := List.isPrefixOf_iff_prefix.mp starts
      simp only [List.drop_left, Option.some.injEq] at found
      rw [found]
    · simp at found
  · rintro rfl
    simp [after?]

/-- What precedes `mark` when the text ends with it. -/
def before? (mark text : List Char) : Option (List Char) :=
  if mark.isSuffixOf text then some (text.take (text.length - mark.length)) else none

theorem before?_eq_some_iff {mark text rest : List Char} :
    before? mark text = some rest ↔ text = rest ++ mark := by
  constructor
  · intro found
    unfold before? at found
    split at found
    · next ends =>
      obtain ⟨remainder, rfl⟩ := List.isSuffixOf_iff_suffix.mp ends
      simp at found
      rw [found]
    · simp at found
  · rintro rfl
    simp [before?]

/-- The two sides of the first occurrence of `mark`. -/
def cut (mark : List Char) : List Char → Option (List Char × List Char)
  | [] => if mark.isEmpty then some ([], []) else none
  | character :: rest =>
      match after? mark (character :: rest) with
      | some remainder => some ([], remainder)
      | none => (cut mark rest).map fun (left, right) => (character :: left, right)

theorem eq_append_of_cut {mark text left right : List Char}
    (found : cut mark text = some (left, right)) : text = left ++ mark ++ right := by
  induction text generalizing left with
  | nil =>
      cases mark with
      | nil =>
          simp only [cut, List.isEmpty_nil, if_true, Option.some.injEq, Prod.mk.injEq] at found
          simp [← found.1, ← found.2]
      | cons => simp [cut] at found
  | cons character rest ih =>
      unfold cut at found
      split at found
      · next starts =>
        obtain ⟨rfl, rfl⟩ := Prod.mk.inj (Option.some.inj found)
        simpa using after?_eq_some_iff.mp starts
      · obtain ⟨⟨rest_left, rest_right⟩, rest_found, sides⟩ := Option.map_eq_some_iff.mp found
        obtain ⟨rfl, rfl⟩ := Prod.mk.inj sides
        simp [ih rest_found]

/-- What precedes the last occurrence of a character, or the whole text without one. -/
def beforeLast (mark : Char) (text : List Char) : List Char :=
  if text.contains mark then ((text.reverse.dropWhile (· != mark)).drop 1).reverse else text

end Text
end LayoutRecovery
