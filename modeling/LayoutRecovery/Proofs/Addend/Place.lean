import LayoutRecovery.Addend
import LayoutRecovery.Proofs.Literal.Token

/-!
# Where an addend stands

A plain addend is read exactly where the name of a tracked pointer, a sign and a token stand one
behind the other, with optional white space between them.
-/

namespace LayoutRecovery

namespace Addend

/-- Whether a text is the name of a tracked pointer. -/
def isTrackedName : List Char → Bool
  | [letter, digit] => (letter == 'a' || letter == 'v') && Text.isDecimalDigit digit
  | [letter, digit, second] =>
      (letter == 'a' || letter == 'v') && Text.isDecimalDigit digit && Text.isDecimalDigit second
  | _ => false

/-- The sign of an addend. -/
def sign (negative : Bool) : Char :=
  if negative then '-' else '+'

/-- Whether a text can stand behind a token: nothing of it belongs to the token. -/
def Stops (rest : List Char) : Prop :=
  ∀ first, rest.head? = some first → Text.isIdentifierCharacter first = false

/-- A sign and a token in front of a rest, each behind optional blanks. -/
structure Occurrence.Signs (occurrence : Occurrence) (text : List Char) : Prop where
  shape : ∃ before between, (∀ character ∈ before, Text.isBlank character = true) ∧
    (∀ character ∈ between, Text.isBlank character = true) ∧
    text = before ++ sign occurrence.negative ::
      (between ++ (occurrence.token ++ occurrence.rest))
  filled : occurrence.token ≠ []
  identifier : ∀ character ∈ occurrence.token, Text.isIdentifierCharacter character = true
  stops : Stops occurrence.rest

/-- An occurrence behind the name of a tracked pointer. -/
def Occurrence.Heads (occurrence : Occurrence) (text : List Char) : Prop :=
  ∃ name behind, isTrackedName name = true ∧ text = name ++ behind ∧ occurrence.Signs behind

/-- An occurrence behind a tracked pointer anywhere in a text. -/
def Occurrence.Within (occurrence : Occurrence) (text : List Char) : Prop :=
  ∃ tail, tail <:+ text ∧ occurrence.Heads tail

theorem stops_cons {first : Char} (ends : Text.isIdentifierCharacter first = false)
    (rest : List Char) : Stops (first :: rest) := by
  intro other starts
  rw [← Option.some.inj starts]
  exact ends

theorem visible_sign (negative : Bool) : Text.isBlank (sign negative) = false := by
  cases negative <;> decide

theorem takeWhile_of_stops {token rest : List Char}
    (identifier : ∀ character ∈ token, Text.isIdentifierCharacter character = true)
    (stops : Stops rest) : (token ++ rest).takeWhile Text.isIdentifierCharacter = token := by
  rw [List.takeWhile_append_of_pos identifier]
  cases rest with
  | nil => simp
  | cons first rest => simp [stops first rfl]

theorem dropWhile_of_stops {token rest : List Char}
    (identifier : ∀ character ∈ token, Text.isIdentifierCharacter character = true)
    (stops : Stops rest) : (token ++ rest).dropWhile Text.isIdentifierCharacter = rest := by
  rw [List.dropWhile_append_of_pos identifier]
  cases rest with
  | nil => rfl
  | cons first rest => simp [stops first rfl]

theorem signs_of_signedToken? {text : List Char} {occurrence : Occurrence}
    (found : signedToken? text = some occurrence) : occurrence.Signs text := by
  obtain ⟨before, before_blank, split_before⟩ := Text.eq_blanks_append_trimStart text
  unfold signedToken? at found
  split at found
  · next mark behind starts =>
    obtain ⟨between, between_blank, split_between⟩ := Text.eq_blanks_append_trimStart behind
    split at found
    · next signed =>
      dsimp only at found
      split at found
      · cases found
      · next filled =>
        have same : mark = sign (decide (mark = '-')) := by
          rcases signed with rfl | rfl <;> rfl
        rw [← Option.some.inj found]
        refine ⟨⟨before, between, before_blank, between_blank, ?_⟩, filled,
          fun _ inside => List.mem_takeWhile_imp inside, fun first starts => ?_⟩
        · rw [List.takeWhile_append_dropWhile, ← split_between, ← same, ← starts, ← split_before]
        · obtain ⟨more, left⟩ := List.head?_eq_some_iff.mp starts
          exact Text.not_of_dropWhile_eq_cons left
    · cases found
  · cases found

theorem signedToken?_of_signs {text : List Char} {occurrence : Occurrence}
    (signs : occurrence.Signs text) : signedToken? text = some occurrence := by
  obtain ⟨before, between, before_blank, between_blank, rfl⟩ := signs.shape
  obtain ⟨negative, token, rest⟩ := occurrence
  have operand : Text.trimStart (between ++ (token ++ rest)) = token ++ rest := by
    cases token with
    | nil => exact absurd rfl signs.filled
    | cons first token =>
        have visible := Text.isBlank_of_isIdentifierCharacter (signs.identifier first (by simp))
        exact Text.trimStart_blanks between_blank visible _
  have taken := takeWhile_of_stops signs.identifier signs.stops
  have left := dropWhile_of_stops signs.identifier signs.stops
  have filled : token ≠ [] := signs.filled
  rw [signedToken?, Text.trimStart_blanks before_blank (visible_sign negative)]
  simp only [operand, taken, left, if_neg filled]
  cases negative <;> rfl

theorem exists_name_of_pointer? {text behind : List Char} (found : pointer? text = some behind) :
    ∃ name, isTrackedName name = true ∧ text = name ++ behind := by
  unfold pointer? at found
  split at found
  · next letter digit rest =>
    split at found
    · next tracked =>
      have one : isTrackedName [letter, digit] = true := by simp [isTrackedName, tracked]
      split at found
      · next second more =>
        rw [← Option.some.inj found]
        split
        · next digits =>
          exact ⟨[letter, digit, second], by simp [isTrackedName, tracked, digits], rfl⟩
        · exact ⟨[letter, digit], one, rfl⟩
      · rw [← Option.some.inj found]
        exact ⟨[letter, digit], one, rfl⟩
    · cases found
  · cases found

theorem pointer?_append_cons {front : List Char} (filled : front ≠ []) {first : Char}
    (ends : Text.isDecimalDigit first = false) (rest : List Char) :
    pointer? (front ++ first :: rest) = (pointer? front).map (· ++ first :: rest) := by
  rcases front with _ | ⟨letter, _ | ⟨digit, _ | ⟨second, more⟩⟩⟩
  · exact absurd rfl filled
  · simp [pointer?, ends]
  · simp only [List.cons_append, List.nil_append, pointer?, ends]
    split <;> rfl
  · simp only [List.cons_append, pointer?]
    split
    · split <;> rfl
    · rfl

theorem pointer?_of_isTrackedName {name : List Char} (tracked : isTrackedName name = true)
    {first : Char} (ends : Text.isDecimalDigit first = false) (rest : List Char) :
    pointer? (name ++ first :: rest) = some (first :: rest) := by
  unfold isTrackedName at tracked
  split at tracked
  · simp only [Bool.and_eq_true, Bool.or_eq_true, beq_iff_eq] at tracked
    simp [pointer?, tracked, ends]
  · simp only [Bool.and_eq_true, Bool.or_eq_true, beq_iff_eq] at tracked
    simp [pointer?, tracked]
  · cases tracked

theorem Occurrence.Signs.pointer? {occurrence : Occurrence} {behind : List Char}
    (signs : occurrence.Signs behind) {name : List Char} (tracked : isTrackedName name = true) :
    Addend.pointer? (name ++ behind) = some behind := by
  obtain ⟨before, between, before_blank, -, rfl⟩ := signs.shape
  cases before with
  | nil =>
      refine pointer?_of_isTrackedName tracked ?_ _
      cases occurrence.negative <;> decide
  | cons first before =>
      have blank := before_blank first (by simp)
      exact pointer?_of_isTrackedName tracked (Text.isDecimalDigit_of_isBlank blank) _

/-- A plain addend is read exactly where a tracked pointer, a sign and a token stand. -/
theorem plainHere?_eq_some_iff {text : List Char} {occurrence : Occurrence} :
    plainHere? text = some occurrence ↔ occurrence.Heads text := by
  constructor
  · intro found
    obtain ⟨behind, read, signed⟩ := Option.bind_eq_some_iff.mp found
    obtain ⟨name, tracked, rfl⟩ := exists_name_of_pointer? read
    exact ⟨name, behind, tracked, rfl, signs_of_signedToken? signed⟩
  · rintro ⟨name, behind, tracked, rfl, signs⟩
    rw [plainHere?, signs.pointer? tracked, Option.bind_some, signedToken?_of_signs signs]

end Addend

end LayoutRecovery
