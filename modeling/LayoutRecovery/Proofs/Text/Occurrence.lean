import LayoutRecovery.LineKind
import LayoutRecovery.Text.Blank
import LayoutRecovery.Text.Search
import Mathlib.Data.List.DropRight

/-!
# Occurrences in printed text

Where a mark can occur in a text that is put together from pieces.  A mark does not reach across a
character that it does not hold, and it does not occur in a text that lacks one of its characters.
Trimming leaves alone what starts and ends outside white space.
-/

namespace LayoutRecovery

namespace Text

/-! ## Marks -/

theorem occursIn_eq_false_of_mem {mark text : List Char} (character : Char)
    (inside : character ∈ mark) (absent : character ∉ text) : occursIn mark text = false := by
  cases found : occursIn mark text with
  | false => rfl
  | true => exact absurd ((occursIn_iff.mp found).subset inside) absent

theorem occursIn_append_of_left {mark left : List Char} (right : List Char)
    (found : occursIn mark left = true) : occursIn mark (left ++ right) = true :=
  occursIn_iff.mpr ((occursIn_iff.mp found).trans (List.prefix_append left right).isInfix)

theorem isSome_before? (mark text : List Char) :
    (before? mark text).isSome = mark.isSuffixOf text := by
  unfold before?
  cases mark.isSuffixOf text <;> rfl

theorem after?_eq_none_of_mem {mark text : List Char} (character : Char)
    (inside : character ∈ mark) (absent : character ∉ text) : after? mark text = none := by
  cases found : after? mark text with
  | none => rfl
  | some rest =>
      have whole := after?_eq_some_iff.mp found
      exact absurd (by simp [whole, inside]) absent

/-- A mark starts a text exactly if it starts the piece before a character that it lacks. -/
theorem isPrefixOf_append_cons {mark : List Char} {separator : Char}
    (absent : separator ∉ mark) (left right : List Char) :
    mark.isPrefixOf (left ++ separator :: right) = mark.isPrefixOf left := by
  induction mark generalizing left with
  | nil => simp
  | cons first mark ih =>
      have differs : first ≠ separator := fun same => absent (by simp [same])
      have later : separator ∉ mark := fun found => absent (by simp [found])
      cases left with
      | nil => simp [List.isPrefixOf, differs]
      | cons character left => simp [List.isPrefixOf, ih later]

/-- A mark does not reach across a character that it lacks. -/
theorem occursIn_append_cons {mark left right : List Char} {separator : Char}
    (absent : separator ∉ mark) (filled : mark ≠ []) :
    occursIn mark (left ++ separator :: right) = (occursIn mark left || occursIn mark right) := by
  induction left with
  | nil =>
      have starts : mark.isPrefixOf (separator :: right) = mark.isPrefixOf [] :=
        isPrefixOf_append_cons absent [] right
      cases mark with
      | nil => exact absurd rfl filled
      | cons first mark => simp [occursIn, starts]
  | cons character left ih =>
      have starts : mark.isPrefixOf (character :: left ++ separator :: right) =
          mark.isPrefixOf (character :: left) := isPrefixOf_append_cons absent _ right
      rw [List.cons_append] at starts
      rw [List.cons_append, occursIn, occursIn, ih, starts, Bool.or_assoc]

theorem cut_equals {left : List Char} (right : List Char) (absent : '=' ∉ left) :
    cut " = ".toList (left ++ " = ".toList ++ right) = some (left, right) := by
  induction left with
  | nil => rfl
  | cons character left ih =>
      have later : '=' ∉ left := fun found => absent (by simp [found])
      have next : after? " = ".toList (character :: (left ++ " = ".toList ++ right)) = none := by
        have misses : (" = ".toList).isPrefixOf
            (character :: (left ++ " = ".toList ++ right)) = false := by
          cases left with
          | nil => simp [List.isPrefixOf]
          | cons second left =>
              have differs : '=' ≠ second := fun same => later (same ▸ List.mem_cons_self)
              simp [List.isPrefixOf, differs]
        rw [after?, misses]
        rfl
      rw [List.cons_append, List.cons_append, cut, next]
      simp only [ih later, Option.map_some]

/-- What stands behind an occurrence of a mark is left behind the first one too. -/
theorem exists_cut {mark : List Char} (filled : mark ≠ []) (front rest : List Char) :
    ∃ left right, cut mark (front ++ (mark ++ rest)) = some (left, right) ∧ rest <:+ right := by
  induction front with
  | nil =>
      cases mark with
      | nil => exact absurd rfl filled
      | cons first mark =>
          have starts : after? (first :: mark) (first :: mark ++ rest) = some rest :=
            after?_eq_some_iff.mpr rfl
          refine ⟨[], rest, ?_, List.suffix_rfl⟩
          rw [List.nil_append, List.cons_append, cut, ← List.cons_append, starts]
  | cons first front ih =>
      rw [List.cons_append, cut]
      cases starts : after? mark (first :: (front ++ (mark ++ rest))) with
      | none =>
          obtain ⟨left, right, found, later⟩ := ih
          exact ⟨first :: left, right, by rw [found]; rfl, later⟩
      | some right =>
          have whole := after?_eq_some_iff.mp starts
          have longer : rest.length ≤ right.length := by
            have count := congrArg List.length whole
            simp only [List.length_cons, List.length_append] at count
            omega
          have here : rest <:+ mark ++ right := by
            rw [← whole]
            exact ⟨first :: (front ++ mark), by simp⟩
          exact ⟨[], right, rfl,
            List.suffix_of_suffix_length_le here (List.suffix_append mark right) longer⟩

theorem beforeLast_append_cons {mark : Char} {rest : List Char} (absent : mark ∉ rest)
    (text : List Char) : beforeLast mark (text ++ mark :: rest) = text := by
  have skipped : ∀ character ∈ rest.reverse, (character != mark) = true := by
    intro character inside
    rw [bne_iff_ne]
    rintro rfl
    exact absent (List.mem_reverse.mp inside)
  have shape : (text ++ mark :: rest).reverse = rest.reverse ++ mark :: text.reverse := by simp
  rw [beforeLast, shape, List.dropWhile_append_of_pos skipped]
  simp

theorem beforeLast_append (mark : Char) (text : List Char) :
    beforeLast mark (text ++ [mark]) = text :=
  beforeLast_append_cons List.not_mem_nil text

/-! ## White space -/

theorem trimEnd_eq_rdropWhile (text : List Char) : trimEnd text = text.rdropWhile isBlank := rfl

theorem not_of_dropWhile_eq_cons {drops : Char → Bool} {text rest : List Char} {character : Char}
    (left : text.dropWhile drops = character :: rest) : drops character = false := by
  have stops := List.head?_dropWhile_not drops text
  rw [left] at stops
  exact stops

theorem trimStart_cons {character : Char} (text : List Char)
    (visible : isBlank character = false) : trimStart (character :: text) = character :: text := by
  simp [trimStart, visible]

theorem trimStart_blanks {blanks : List Char}
    (blank : ∀ character ∈ blanks, isBlank character = true) {first : Char}
    (visible : isBlank first = false) (rest : List Char) :
    trimStart (blanks ++ first :: rest) = first :: rest := by
  rw [trimStart, List.dropWhile_append_of_pos blank]
  exact trimStart_cons rest visible

/-- White space ends before a visible character, whatever stands behind it. -/
theorem trimStart_append_cons (front : List Char) {first : Char} (visible : isBlank first = false)
    (rest : List Char) : trimStart (front ++ first :: rest) = trimStart front ++ first :: rest := by
  have starts : (first :: rest).dropWhile isBlank = first :: rest := trimStart_cons rest visible
  simp only [trimStart, List.dropWhile_append, starts]
  split
  · next empty => rw [List.isEmpty_iff.mp empty, List.nil_append]
  · rfl

theorem eq_blanks_append_trimStart (text : List Char) :
    ∃ blanks, (∀ character ∈ blanks, isBlank character = true) ∧ text = blanks ++ trimStart text :=
  ⟨text.takeWhile isBlank, fun _ inside => List.mem_takeWhile_imp inside,
    List.takeWhile_append_dropWhile.symm⟩

theorem exists_trim (text : List Char) :
    ∃ before after, (∀ character ∈ before, isBlank character = true) ∧
      (∀ character ∈ after, isBlank character = true) ∧ text = before ++ (trim text ++ after) := by
  obtain ⟨before, blank, start⟩ := eq_blanks_append_trimStart text
  refine ⟨before, (trimStart text).rtakeWhile isBlank, blank,
    fun character inside => List.mem_rtakeWhile_imp inside, ?_⟩
  have ends : trim text ++ (trimStart text).rtakeWhile isBlank = trimStart text :=
    List.rdropWhile_append_rtakeWhile
  rw [ends]
  exact start

theorem trim_between {before after : List Char}
    (blank_before : ∀ character ∈ before, isBlank character = true)
    (blank_after : ∀ character ∈ after, isBlank character = true) {first : Char}
    {rest : List Char} (starts : isBlank first = false)
    (ends : isBlank ((first :: rest).getLast (List.cons_ne_nil first rest)) = false) :
    trim (before ++ (first :: rest ++ after)) = first :: rest := by
  have skipped : ∀ character ∈ after.reverse, isBlank character = true := fun character inside =>
    blank_after character (List.mem_reverse.mp inside)
  have front : trimStart (before ++ (first :: rest ++ after)) = first :: rest ++ after :=
    trimStart_blanks blank_before starts (rest ++ after)
  have back : (first :: rest).rdropWhile isBlank = first :: rest :=
    List.rdropWhile_eq_self_iff.mpr fun _ blank => Bool.noConfusion (ends.symm.trans blank)
  rw [trim, front, trimEnd, dropEndWhile, List.reverse_append, List.dropWhile_append_of_pos skipped]
  exact back

theorem trim_trim (text : List Char) : trim (trim text) = trim text := by
  have settled : trimStart (trim text) = trim text := by
    cases shape : trim text with
    | nil => rfl
    | cons character rest =>
        have starts : trim text <+: trimStart text := List.rdropWhile_prefix ..
        rw [shape] at starts
        obtain ⟨more, whole⟩ := starts
        exact trimStart_cons rest (not_of_dropWhile_eq_cons whole.symm)
  rw [trim, settled, trim, trimEnd_eq_rdropWhile, trimEnd_eq_rdropWhile,
    List.rdropWhile_idempotent]

theorem trim_of_forall {text : List Char}
    (visible : ∀ character ∈ text, isBlank character = false) : trim text = text := by
  have settled : trimStart text = text := by
    cases text with
    | nil => rfl
    | cons character rest => exact trimStart_cons rest (visible character (by simp))
  rw [trim, settled, trimEnd_eq_rdropWhile, List.rdropWhile_eq_self_iff]
  intro filled blank
  rw [visible _ (List.getLast_mem filled)] at blank
  exact Bool.noConfusion blank

theorem isBlank_or_mem_trimStart {text : List Char} {character : Char}
    (found : character ∈ text) : isBlank character = true ∨ character ∈ trimStart text := by
  rw [← List.takeWhile_append_dropWhile (p := isBlank) (l := text), List.mem_append] at found
  exact found.imp_left List.mem_takeWhile_imp

theorem isBlank_or_mem_trim {text : List Char} {character : Char} (found : character ∈ text) :
    isBlank character = true ∨ character ∈ trim text := by
  rcases isBlank_or_mem_trimStart found with blank | later
  · exact .inl blank
  · rw [← List.rdropWhile_append_rtakeWhile (p := isBlank) (l := trimStart text),
      List.mem_append] at later
    exact later.symm.imp_left List.mem_rtakeWhile_imp

end Text

namespace LineKind

theorem occursIn_of_marks {mark text : List Char} {accepts : List Char → Bool}
    (found : marks mark accepts text = true) : Text.occursIn mark text = true := by
  induction text with
  | nil => exact Bool.noConfusion found
  | cons character rest ih =>
      simp only [marks, Bool.or_eq_true] at found
      rw [Text.occursIn, Bool.or_eq_true]
      rcases found with here | later
      · left
        unfold Text.after? at here
        split at here
        · assumption
        · exact Bool.noConfusion here
      · exact .inr (ih later)

end LineKind

end LayoutRecovery
