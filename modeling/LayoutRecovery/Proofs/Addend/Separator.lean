import LayoutRecovery.Proofs.Addend.Place

/-!
# Addends and separators

No plain addend reaches across a character that is neither white space nor a sign nor part of a
word, and no scaled one across such a character that is not part of a cast either, as a comma.  What
is read in front of a separator stays the same with more text behind it, so that the addend of a
whole text is looked for on its two sides: the leftmost scaled one of either decides, and without
one the leftmost plain one.
-/

namespace LayoutRecovery

namespace Addend

/-- An occurrence with more text behind it. -/
def Occurrence.extend (occurrence : Occurrence) (behind : List Char) : Occurrence :=
  { occurrence with rest := occurrence.rest ++ behind }

/-- A character that stands in no plain addend. -/
structure Breaks (stop : Char) : Prop where
  visible : Text.isBlank stop = false
  identifier : Text.isIdentifierCharacter stop = false
  digit : Text.isDecimalDigit stop = false
  word : Text.isWordCharacter stop = false
  plus : stop ≠ '+'
  minus : stop ≠ '-'

/-- A character that stands in no addend of either shape. -/
structure Separates (stop : Char) : Prop extends Breaks stop where
  opening : stop ≠ '('
  star : stop ≠ '*'
  closing : stop ≠ ')'

theorem breaks_parenthesis : Breaks '(' := by
  constructor <;> decide

theorem separates_comma : Separates ',' := by
  constructor
  · constructor <;> decide
  all_goals decide

section Pieces

variable {stop : Char} (front rest : List Char)

theorem takeWhile_append_stop {holds : Char → Bool} (stops : holds stop = false) :
    (front ++ stop :: rest).takeWhile holds = front.takeWhile holds := by
  induction front with
  | nil => simp [stops]
  | cons first front ih => rw [List.cons_append, List.takeWhile_cons, List.takeWhile_cons, ih]

theorem dropWhile_append_stop {holds : Char → Bool} (stops : holds stop = false) :
    (front ++ stop :: rest).dropWhile holds = front.dropWhile holds ++ stop :: rest := by
  induction front with
  | nil => simp [stops]
  | cons first front ih =>
      rw [List.cons_append, List.dropWhile_cons, List.dropWhile_cons, ih]
      split <;> rfl

/-! ## Plain addends -/

theorem signedToken?_append_stop (breaks : Breaks stop) :
    signedToken? (front ++ stop :: rest) = (signedToken? front).map (·.extend (stop :: rest)) := by
  have unsigned : ¬ (stop = '+' ∨ stop = '-') := by simp [breaks.plus, breaks.minus]
  simp only [signedToken?, Text.trimStart_append_cons _ breaks.visible]
  cases Text.trimStart front with
  | nil => simp [unsigned]
  | cons mark behind =>
      simp only [List.cons_append, Text.trimStart_append_cons _ breaks.visible,
        takeWhile_append_stop _ _ breaks.identifier, dropWhile_append_stop _ _ breaks.identifier]
      split
      · split <;> rfl
      · rfl

theorem pointer?_append_stop (breaks : Breaks stop) :
    pointer? (front ++ stop :: rest) = (pointer? front).map (· ++ stop :: rest) := by
  cases front with
  | nil =>
      have letters : ¬ (stop = 'a' ∨ stop = 'v') := by
        rintro (rfl | rfl) <;> exact absurd breaks.identifier (by decide)
      cases rest <;> simp [pointer?, letters]
  | cons first front => exact pointer?_append_cons (List.cons_ne_nil _ _) breaks.digit rest

theorem plainHere?_append_stop (breaks : Breaks stop) :
    plainHere? (front ++ stop :: rest) = (plainHere? front).map (·.extend (stop :: rest)) := by
  rw [plainHere?, plainHere?, pointer?_append_stop front rest breaks]
  cases pointer? front with
  | none => rfl
  | some behind => exact signedToken?_append_stop behind rest breaks

theorem plainFrom?_append_stop (breaks : Breaks stop) (insideWord : Bool) :
    plainFrom? insideWord (front ++ stop :: rest) =
      ((plainFrom? insideWord front).map (·.extend (stop :: rest))).or (plain? rest) := by
  induction front generalizing insideWord with
  | nil =>
      have here : plainHere? (stop :: rest) = none := plainHere?_append_stop [] rest breaks
      simp [plainFrom?, here, breaks.word, plain?]
  | cons first front ih =>
      have here := plainHere?_append_stop (first :: front) rest breaks
      rw [List.cons_append] at here
      rw [List.cons_append, plainFrom?, here, ih, plainFrom?]
      cases insideWord with
      | true => rfl
      | false => cases plainHere? (first :: front) <;> rfl

/-! ## Scaled addends -/

theorem after?_append_stop {mark : Char} (other : stop ≠ mark) :
    Text.after? [mark] (front ++ stop :: rest) =
      (Text.after? [mark] front).map (· ++ stop :: rest) := by
  cases front with
  | nil => simp [Text.after?, other.symm]
  | cons first front =>
      simp only [List.cons_append, Text.after?, List.isPrefixOf, List.length_singleton,
        List.drop_one, List.tail_cons, Bool.and_true]
      split <;> rfl

theorem token?_append_stop (breaks : Breaks stop) {mark : Char} (other : stop ≠ mark) :
    token? mark (front ++ stop :: rest) = (token? mark front).map (· ++ stop :: rest) := by
  rw [token?, token?, after?_append_stop front rest other, Option.map_map, Option.map_map]
  exact congrArg (Option.map · _)
    (funext fun behind => Text.trimStart_append_cons behind breaks.visible rest)

theorem typeName?_append_stop (breaks : Breaks stop) :
    typeName? (front ++ stop :: rest) =
      (typeName? front).map fun (name, behind) => (name, behind ++ stop :: rest) := by
  have start : Text.isIdentifierStart stop = false := by
    have outside := breaks.identifier
    simp only [Text.isIdentifierCharacter, Char.isAlphanum, Bool.or_eq_false_iff] at outside
    simp [Text.isIdentifierStart, outside.1.1, outside.2]
  have inside : (Text.isIdentifierCharacter stop || stop == ' ') = false := by
    have blank : stop ≠ ' ' := by
      rintro rfl
      exact absurd breaks.visible (by decide)
    simp [breaks.identifier, blank]
  cases front with
  | nil => simp [typeName?, start]
  | cons first front =>
      simp only [List.cons_append, typeName?]
      split
      · rw [takeWhile_append_stop front rest inside, dropWhile_append_stop front rest inside,
          Text.trimStart_append_cons _ breaks.visible]
        rfl
      · rfl

/-- A piece that is found with more behind it is found without, and so is what follows it. -/
theorem bind_map_of_forall {Piece Found Result Grown : Type} (piece : Option Piece)
    {grow : Piece → Found} {later : Found → Option Grown} {read : Piece → Option Result}
    {finish : Result → Grown} (same : ∀ found, later (grow found) = (read found).map finish) :
    (piece.map grow).bind later = (piece.bind read).map finish := by
  cases piece with
  | none => rfl
  | some found => exact same found

/-- A scaled addend is closed in front of a separator or not at all. -/
theorem scaledHere?_append_stop (separates : Separates stop) :
    scaledHere? (front ++ stop :: rest) =
      (scaledHere? front).map (Prod.map id (·.extend (stop :: rest))) := by
  have breaks := separates.toBreaks
  simp only [scaledHere?, Option.bind_eq_bind]
  rw [token?_append_stop _ _ breaks separates.opening]
  refine bind_map_of_forall _ fun opened => ?_
  rw [token?_append_stop _ _ breaks separates.opening]
  refine bind_map_of_forall _ fun inner => ?_
  rw [typeName?_append_stop _ _ breaks]
  refine bind_map_of_forall _ fun (name, behind_name) => ?_
  dsimp only
  rw [token?_append_stop _ _ breaks separates.star]
  refine bind_map_of_forall _ fun behind_star => ?_
  rw [token?_append_stop _ _ breaks separates.closing]
  refine bind_map_of_forall _ fun behind_cast => ?_
  rw [plainHere?_append_stop _ _ breaks]
  refine bind_map_of_forall _ fun occurrence => ?_
  rw [Occurrence.extend, Text.trimStart_append_cons _ breaks.visible,
    after?_append_stop _ _ separates.closing]
  exact bind_map_of_forall _ fun behind => rfl

theorem scaled?_append_stop (separates : Separates stop) :
    scaled? (front ++ stop :: rest) =
      ((scaled? front).map (Prod.map id (·.extend (stop :: rest)))).or (scaled? rest) := by
  induction front with
  | nil =>
      have here : scaledHere? (stop :: rest) = none := scaledHere?_append_stop [] rest separates
      simp [scaled?, here]
  | cons first front ih =>
      have here := scaledHere?_append_stop (first :: front) rest separates
      rw [List.cons_append] at here
      rw [List.cons_append, scaled?, here, ih, scaled?]
      cases scaledHere? (first :: front) <;> rfl

end Pieces

/-! ## Addends of a text -/

theorem find?_eq_none_iff {text : List Char} :
    find? text = none ↔ scaled? text = none ∧ plain? text = none := by
  unfold find?
  cases scaled? text with
  | none => simp
  | some found => simp

variable {front rest : List Char} {stop : Char}

/-- Without an addend in front of a separator, the addend is that of what stands behind it. -/
theorem find?_append_of_none (silent : find? front = none) (separates : Separates stop) :
    find? (front ++ stop :: rest) = find? rest := by
  obtain ⟨unscaled, unplain⟩ := find?_eq_none_iff.mp silent
  have scaled : scaled? (front ++ stop :: rest) = scaled? rest := by
    rw [scaled?_append_stop front rest separates, unscaled]
    rfl
  have plain : plain? (front ++ stop :: rest) = plain? rest := by
    rw [plain?, plainFrom?_append_stop front rest separates.toBreaks, ← plain?,
      unplain]
    rfl
  rw [find?, find?, scaled, plain]

/-- An addend in front of a separator decides if only plain ones stand behind it. -/
theorem find?_append_of_some {addend : Addend} (found : find? front = some addend)
    (separates : Separates stop) (unscaled : scaled? rest = none) :
    find? (front ++ stop :: rest) = some addend := by
  rw [← found]
  unfold find? at found ⊢
  rw [scaled?_append_stop front rest separates, unscaled, Option.or_none]
  cases here : scaled? front with
  | some leftmost => rfl
  | none =>
      rw [here] at found
      obtain ⟨occurrence, plain, -⟩ := Option.map_eq_some_iff.mp found
      rw [Option.map_none, plain?,
        plainFrom?_append_stop front rest separates.toBreaks, ← plain?, plain]
      rfl

end Addend

end LayoutRecovery
