import LayoutRecovery.SourceLine
import LayoutRecovery.Text.Search

/-!
# Lines of a text

A text that is written line by line is cut into these lines again at its line feeds, as long as no
line holds one itself.  What a text is taken apart into holds no character that the text lacks: this
goes for trimming, for the parts around a mark and for the pieces between separators, which lack the
separators too.  So the lines of an input and everything that is cut out of them stay on one line.
-/

namespace LayoutRecovery
namespace Text

/-! ## Parts of a text -/

theorem dropEndWhile_subset (drops : Char → Bool) (text : List Char) :
    dropEndWhile drops text ⊆ text := by
  intro character inside
  rw [dropEndWhile, List.mem_reverse] at inside
  exact List.mem_reverse.mp ((List.dropWhile_suffix drops).subset inside)

theorem trim_subset (text : List Char) : trim text ⊆ text :=
  List.Subset.trans (dropEndWhile_subset isBlank _) (List.dropWhile_suffix isBlank).subset

theorem beforeLast_subset (mark : Char) (text : List Char) : beforeLast mark text ⊆ text := by
  unfold beforeLast
  split
  · intro character inside
    rw [List.mem_reverse] at inside
    have later := (List.dropWhile_suffix _).subset (List.mem_of_mem_drop inside)
    exact List.mem_reverse.mp later
  · exact List.Subset.refl text

/-- The pieces between separators hold no separator and nothing that the text lacks. -/
theorem mem_and_not_of_mem_splitOnP {separates : Char → Bool} {text piece : List Char}
    (found : piece ∈ text.splitOnP separates) {character : Char} (inside : character ∈ piece) :
    character ∈ text ∧ separates character = false := by
  induction text generalizing piece with
  | nil =>
      rw [List.splitOnP_nil, List.mem_singleton] at found
      rw [found] at inside
      cases inside
  | cons first rest ih =>
      rw [List.splitOnP_cons_eq_if_modifyHead] at found
      split at found
      · rcases List.mem_cons.mp found with rfl | later
        · cases inside
        · have held := ih later inside
          exact ⟨List.mem_cons_of_mem first held.1, held.2⟩
      · next plain =>
        obtain ⟨front, others, split⟩ :=
          List.exists_cons_of_ne_nil (List.splitOnP_ne_nil separates rest)
        rw [split] at found ih
        rcases List.mem_cons.mp found with rfl | later
        · rcases List.mem_cons.mp inside with rfl | inside
          · exact ⟨List.mem_cons_self, Bool.eq_false_iff.mpr plain⟩
          · have held := ih List.mem_cons_self inside
            exact ⟨List.mem_cons_of_mem first held.1, held.2⟩
        · have held := ih (List.mem_cons_of_mem front later) inside
          exact ⟨List.mem_cons_of_mem first held.1, held.2⟩

theorem exists_mem_splitOnP {separates : Char → Bool} {text : List Char} {character : Char}
    (inside : character ∈ text) (plain : separates character = false) :
    ∃ piece ∈ text.splitOnP separates, character ∈ piece := by
  induction text with
  | nil => cases inside
  | cons first rest ih =>
      rw [List.splitOnP_cons_eq_if_modifyHead]
      split
      · next separating =>
        rcases List.mem_cons.mp inside with rfl | later
        · rw [plain] at separating
          cases separating
        · obtain ⟨piece, cut, held⟩ := ih later
          exact ⟨piece, List.mem_cons_of_mem [] cut, held⟩
      · obtain ⟨front, others, split⟩ :=
          List.exists_cons_of_ne_nil (List.splitOnP_ne_nil separates rest)
        rw [split] at ih ⊢
        rcases List.mem_cons.mp inside with rfl | later
        · exact ⟨character :: front, List.mem_cons_self, List.mem_cons_self⟩
        · obtain ⟨piece, cut, held⟩ := ih later
          rcases List.mem_cons.mp cut with rfl | cut
          · exact ⟨first :: piece, List.mem_cons_self, List.mem_cons_of_mem first held⟩
          · exact ⟨piece, List.mem_cons_of_mem _ cut, held⟩

theorem exists_mem_splitOn {separator : Char} {text : List Char} {character : Char}
    (inside : character ∈ text) (differs : character ≠ separator) :
    ∃ piece ∈ text.splitOn separator, character ∈ piece := by
  rw [List.splitOn_eq_splitOnP]
  exact exists_mem_splitOnP inside (beq_false_of_ne differs)

theorem mem_and_ne_of_mem_splitOn {separator : Char} {text piece : List Char}
    (found : piece ∈ text.splitOn separator) {character : Char} (inside : character ∈ piece) :
    character ∈ text ∧ character ≠ separator := by
  rw [List.splitOn_eq_splitOnP] at found
  obtain ⟨held, plain⟩ := mem_and_not_of_mem_splitOnP found inside
  exact ⟨held, ne_of_beq_false plain⟩

/-- Text without the separator lengthens the last piece of the text in front of it. -/
theorem exists_splitOn_append {separator : Char} (text : List Char) {tail : List Char}
    (plain : separator ∉ tail) :
    ∃ front last, text.splitOn separator = front ++ [last] ∧
      (text ++ tail).splitOn separator = front ++ [last ++ tail] := by
  induction text with
  | nil => exact ⟨[], [], rfl, List.splitOn_eq_singleton plain⟩
  | cons first rest ih =>
      obtain ⟨front, last, pieces, longer⟩ := ih
      rw [List.cons_append, List.splitOn_cons_eq_if_modifyHead, List.splitOn_cons_eq_if_modifyHead,
        pieces, longer]
      split
      · exact ⟨[] :: front, last, rfl, rfl⟩
      · cases front with
        | nil => exact ⟨[], first :: last, rfl, rfl⟩
        | cons piece others => exact ⟨(first :: piece) :: others, last, rfl, rfl⟩

theorem visible_of_mem_words {text word : List Char} (found : word ∈ words text)
    {character : Char} (inside : character ∈ word) : isBlank character = false :=
  (mem_and_not_of_mem_splitOnP (List.mem_filter.mp found).1 inside).2

/-! ## Line by line -/

/-- A text without a line feed. -/
def Unbroken (text : String) : Prop :=
  '\n' ∉ text.toList

instance (text : String) : Decidable (Unbroken text) :=
  inferInstanceAs (Decidable ('\n' ∉ text.toList))

@[simp]
theorem unbroken_append {left right : String} :
    Unbroken (left ++ right) ↔ Unbroken left ∧ Unbroken right := by
  simp only [Unbroken, String.toList_append, List.mem_append, not_or]

@[simp]
theorem unbroken_ofList {characters : List Char} :
    Unbroken (String.ofList characters) ↔ '\n' ∉ characters := by
  rw [Unbroken, String.toList_ofList]

/-- A text of lines that each end in a line feed. -/
def ofLines (lines : List String) : String :=
  String.join (lines.map (· ++ "\n"))

@[simp]
theorem ofLines_nil : ofLines [] = "" := rfl

@[simp]
theorem ofLines_cons (line : String) (rest : List String) :
    ofLines (line :: rest) = line ++ "\n" ++ ofLines rest := by
  rw [ofLines, List.map_cons, String.join_cons]
  rfl

theorem ofLines_append (left right : List String) :
    ofLines (left ++ right) = ofLines left ++ ofLines right := by
  rw [ofLines, List.map_append, String.join_append]
  rfl

theorem after?_eq_none_iff {mark text : List Char} : after? mark text = none ↔ ¬ mark <+: text := by
  rw [← List.isPrefixOf_iff_prefix, after?]
  split
  · next starts => simp [starts]
  · next differs => simp [differs]

theorem unmarked_append {mark opening : List Char}
    (differs : ¬ mark <+: opening ∧ ¬ opening <+: mark) (rest : String) :
    after? mark (String.ofList opening ++ rest).toList = none := by
  rw [after?_eq_none_iff, String.toList_append, String.toList_ofList]
  intro starts
  rcases List.prefix_or_prefix_of_prefix starts (List.prefix_append opening rest.toList) with
    first | second
  · exact differs.1 first
  · exact differs.2 second

theorem unmarked_ofList {mark text : List Char} (differs : ¬ mark <+: text) :
    after? mark (String.ofList text).toList = none := by
  rw [String.toList_ofList]
  exact after?_eq_none_iff.mpr differs

/-- What stands behind a mark on the lines of a text that start with it, in order. -/
def marked (mark text : List Char) : List (List Char) :=
  (text.splitOn '\n').filterMap (after? mark)

/-- A line that does not start with a mark. -/
structure Silent (mark : List Char) (line : String) : Prop where
  unbroken : Unbroken line
  unmarked : after? mark line.toList = none

/-- Lines of which those that start with a mark say something behind it. -/
structure Tells (mark : List Char) (lines : List String) (found : List (List Char)) : Prop where
  unbroken : ∀ line ∈ lines, Unbroken line
  found : (lines.filterMap fun line => after? mark line.toList) = found

namespace Tells

variable {mark : List Char} {left right : List String} {found others : List (List Char)}

theorem nil : Tells mark [] [] :=
  ⟨by simp, rfl⟩

theorem append (first : Tells mark left found) (second : Tells mark right others) :
    Tells mark (left ++ right) (found ++ others) where
  unbroken line inside := by
    rcases List.mem_append.mp inside with inside | inside
    · exact first.unbroken line inside
    · exact second.unbroken line inside
  found := by rw [List.filterMap_append, first.found, second.found]

theorem of_silent (silent : ∀ line ∈ left, Silent mark line) : Tells mark left [] where
  unbroken line inside := (silent line inside).unbroken
  found := List.filterMap_eq_nil_iff.mpr fun line inside => (silent line inside).unmarked

/-- The text of some lines tells what the lines tell. -/
theorem marked_ofLines (filled : mark ≠ []) (tells : Tells mark left found) :
    marked mark (ofLines left).toList = found := by
  obtain ⟨unbroken, rfl⟩ := tells
  induction left with
  | nil =>
      cases mark with
      | nil => exact absurd rfl filled
      | cons first mark => rfl
  | cons line rest ih =>
      have later := ih fun other inside => unbroken other (List.mem_cons_of_mem line inside)
      have whole : (ofLines (line :: rest)).toList =
          line.toList ++ '\n' :: (ofLines rest).toList := by simp
      rw [marked, whole, List.splitOn_append_cons_self_of_not_mem (unbroken line (by simp)),
        List.filterMap_cons, List.filterMap_cons, ← later]
      rfl

end Tells

end Text

/-! ## The lines of an input -/

namespace SourceLine

theorem dropReturn_subset (line : List Char) : dropReturn line ⊆ line := by
  unfold dropReturn
  split
  · exact List.dropLast_subset line
  · exact List.Subset.refl line

theorem exists_subset_of_mem_ofPieces {pieces : List (List Char)} {line : List Char}
    (found : line ∈ ofPieces pieces) : ∃ piece ∈ pieces, line ⊆ piece := by
  fun_induction ofPieces pieces with
  | case1 => cases found
  | case2 last empty => cases found
  | case3 last filled =>
      exact ⟨last, by simp, by rw [List.mem_singleton.mp found]; exact List.Subset.refl last⟩
  | case4 piece rest more ih =>
      rcases List.mem_cons.mp found with rfl | later
      · exact ⟨piece, by simp, dropReturn_subset piece⟩
      · obtain ⟨other, inside, subset⟩ := ih later
        exact ⟨other, List.mem_cons_of_mem piece inside, subset⟩

/-- No line of an input holds a line feed. -/
theorem unbroken_of_mem_ofText {text : String} {line : SourceLine} (found : line ∈ ofText text) :
    Text.Unbroken line.text := by
  have inside : line.text ∈ (ofText text).map SourceLine.text := List.mem_map_of_mem found
  rw [ofText, map_text_ofTexts] at inside
  obtain ⟨characters, written, same⟩ := List.mem_map.mp inside
  rw [← same, Text.unbroken_ofList]
  intro broken
  obtain ⟨piece, cut, subset⟩ := exists_subset_of_mem_ofPieces written
  exact (Text.mem_and_ne_of_mem_splitOn cut (subset broken)).2 rfl

end SourceLine

end LayoutRecovery
