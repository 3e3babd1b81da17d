import LayoutRecovery.Proofs.Text.Lines

/-!
# Words of a text

A text is white space with words in it, which end at white space or with the text.  Its words are
told by this alone, so the white space in front of them, between them and behind them makes no
difference.
-/

namespace LayoutRecovery
namespace Text

/-! ## Cutting at white space -/

theorem words_append_cons (front : List Char) {blank : Char} (separates : isBlank blank = true)
    (back : List Char) : words (front ++ blank :: back) = words front ++ words back := by
  rw [words, List.splitOnP_append_cons front back separates, List.filter_append]
  rfl

theorem words_cons_blank {blank : Char} (separates : isBlank blank = true) (text : List Char) :
    words (blank :: text) = words text :=
  words_append_cons [] separates text

theorem words_blanks_append {blanks : List Char}
    (blank : ∀ character ∈ blanks, isBlank character = true) (text : List Char) :
    words (blanks ++ text) = words text := by
  induction blanks with
  | nil => rfl
  | cons first rest ih =>
      rw [List.cons_append, words_cons_blank (blank first (by simp)),
        ih fun character inside => blank character (by simp [inside])]

theorem words_of_blank {blanks : List Char}
    (blank : ∀ character ∈ blanks, isBlank character = true) : words blanks = [] := by
  have none_behind := words_blanks_append blank []
  rwa [List.append_nil] at none_behind

theorem words_of_visible {word : List Char} (filled : word ≠ [])
    (visible : ∀ character ∈ word, isBlank character = false) : words word = [word] := by
  rw [words, List.splitOnP_eq_singleton visible]
  simp [filled]

/-- A word ends at white space or with the text. -/
theorem words_append_of_stops {word rest : List Char} (filled : word ≠ [])
    (visible : ∀ character ∈ word, isBlank character = false)
    (stops : ∀ character ∈ rest.head?, isBlank character = true) :
    words (word ++ rest) = word :: words rest := by
  have alone := words_of_visible filled visible
  cases rest with
  | nil =>
      rw [List.append_nil, alone]
      rfl
  | cons first rest =>
      have blank : isBlank first = true := stops first rfl
      rw [words_append_cons word blank, alone, words_cons_blank blank, List.singleton_append]

theorem isBlank_or_mem_words {text : List Char} {character : Char} (inside : character ∈ text) :
    isBlank character = true ∨ ∃ word ∈ words text, character ∈ word := by
  cases blank : isBlank character with
  | true => exact .inl rfl
  | false =>
      obtain ⟨piece, cut, held⟩ := exists_mem_splitOnP inside blank
      have filled : (!piece.isEmpty) = true := by
        cases piece with
        | nil => cases held
        | cons => rfl
      exact .inr ⟨piece, List.mem_filter.mpr ⟨cut, filled⟩, held⟩

/-! ## Words between white space -/

/-- A text of words between white space. -/
inductive Spaced : List Char → List (List Char) → Prop
  | blank {blanks : List Char} (blank : ∀ character ∈ blanks, isBlank character = true) :
      Spaced blanks []
  | word {blanks word rest : List Char} {later : List (List Char)}
      (blank : ∀ character ∈ blanks, isBlank character = true) (filled : word ≠ [])
      (visible : ∀ character ∈ word, isBlank character = false)
      (stops : ∀ character ∈ rest.head?, isBlank character = true) (spaced : Spaced rest later) :
      Spaced (blanks ++ (word ++ rest)) (word :: later)

namespace Spaced

theorem words_eq {text : List Char} {found : List (List Char)} (spaced : Spaced text found) :
    words text = found := by
  induction spaced with
  | blank blank => exact words_of_blank blank
  | word blank filled visible stops _ ih =>
      rw [words_blanks_append blank, words_append_of_stops filled visible stops, ih]

theorem start {word rest : List Char} {later : List (List Char)} (filled : word ≠ [])
    (visible : ∀ character ∈ word, isBlank character = false)
    (stops : ∀ character ∈ rest.head?, isBlank character = true) (spaced : Spaced rest later) :
    Spaced (word ++ rest) (word :: later) :=
  @Spaced.word [] word rest later nofun filled visible stops spaced

theorem cons_blank {text : List Char} {found : List (List Char)} (spaced : Spaced text found)
    {first : Char} (separates : isBlank first = true) : Spaced (first :: text) found := by
  cases spaced with
  | blank blank => exact .blank (List.forall_mem_cons.mpr ⟨separates, blank⟩)
  | @word blanks _ _ _ blank filled visible stops later =>
      have front : ∀ character ∈ first :: blanks, isBlank character = true :=
        List.forall_mem_cons.mpr ⟨separates, blank⟩
      rw [← List.cons_append]
      exact .word front filled visible stops later

/-- A visible character is a word of its own or starts the word that follows. -/
theorem cons_visible {text : List Char} {found : List (List Char)} (spaced : Spaced text found)
    {first : Char} (visible : isBlank first = false) : ∃ words, Spaced (first :: text) words := by
  have single : ∀ character ∈ [first], isBlank character = false := by simpa using visible
  by_cases stops : ∀ character ∈ text.head?, isBlank character = true
  · exact ⟨_, start (List.cons_ne_nil first []) single stops spaced⟩
  · cases spaced with
    | @blank blanks blank =>
        exact absurd (fun character first => blank character (List.mem_of_mem_head? first)) stops
    | @word blanks word rest later blank filled inside ends spaced =>
        cases blanks with
        | nil =>
            have longer : ∀ character ∈ first :: word, isBlank character = false :=
              List.forall_mem_cons.mpr ⟨visible, inside⟩
            exact ⟨_, start (List.cons_ne_nil first word) longer ends spaced⟩
        | cons front blanks =>
            refine absurd (fun character head => ?_) stops
            obtain rfl : front = character := Option.some.inj head
            exact blank front (by simp)

theorem exists_words (text : List Char) : ∃ words, Spaced text words := by
  induction text with
  | nil => exact ⟨[], .blank nofun⟩
  | cons first rest ih =>
      obtain ⟨words, spaced⟩ := ih
      cases visible : isBlank first with
      | true => exact ⟨words, spaced.cons_blank visible⟩
      | false => exact spaced.cons_visible visible

end Spaced

/-- The words of a text are what stands between its white space. -/
theorem spaced_iff {text : List Char} {found : List (List Char)} :
    Spaced text found ↔ words text = found := by
  constructor
  · exact Spaced.words_eq
  · rintro rfl
    obtain ⟨found, spaced⟩ := Spaced.exists_words text
    rwa [spaced.words_eq]

end Text
end LayoutRecovery
