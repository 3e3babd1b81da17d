import LayoutRecovery.Directive
import LayoutRecovery.Proofs.Text.Occurrence
import LayoutRecovery.Proofs.Text.Words
import LayoutRecovery.Reading.Assignment

/-!
# Zero writes

A line that writes zero through a cast pointer ends in ` = 0;`.  It is never a directive that can be
carried out, since none takes `=` and `0;` as its last arguments, and it always has the parts of an
assignment.
-/

namespace LayoutRecovery

namespace LineKind

theorem exists_of_isZeroWrite {line : List Char} (zero : isZeroWrite line = true) :
    ∃ front blanks, (∀ character ∈ blanks, Text.isBlank character = true) ∧
      line = front ++ (" = 0;".toList ++ blanks) := by
  simp only [isZeroWrite, Bool.and_eq_true, List.isSuffixOf_iff_suffix] at zero
  obtain ⟨front, ends⟩ := zero.2
  obtain ⟨before, -, line_eq⟩ := Text.eq_blanks_append_trimStart line
  refine ⟨before ++ front, (Text.trimStart line).rtakeWhile Text.isBlank,
    fun character inside => List.mem_rtakeWhile_imp inside, ?_⟩
  have trimmed : Text.trim line = (Text.trimStart line).rdropWhile Text.isBlank := rfl
  rw [List.append_assoc, ← List.append_assoc front, ends, trimmed,
    List.rdropWhile_append_rtakeWhile, ← line_eq]

end LineKind

namespace Directive

theorem length_of_ofArguments {keyword : Keyword} {arguments : List (List Char)}
    {directive : Directive} (accepted : ofArguments keyword arguments = .ok directive) :
    arguments.length = keyword.arity := by
  unfold ofArguments at accepted
  split at accepted
  all_goals first | rfl | cases accepted

/-- No directive takes arguments that end in `=` and `0;`. -/
theorem ofArguments_ne_ok (keyword : Keyword) (arguments : List (List Char))
    (directive : Directive) :
    ofArguments keyword (arguments ++ ["=".toList, "0;".toList]) ≠ .ok directive := by
  intro accepted
  have count := length_of_ofArguments accepted
  rw [List.length_append] at count
  cases keyword with
  | subroutine =>
      have single : arguments.length = 1 := by
        simp only [Keyword.arity, List.length_cons, List.length_nil] at count
        omega
      have uncounted : byteCount "0;".toList = .error (.notByteCount "0;") := by decide
      obtain ⟨name, rfl⟩ := List.length_eq_one_iff.mp single
      rw [List.singleton_append, ofArguments, uncounted] at accepted
      cases accepted
  | _ =>
      simp only [Keyword.arity, List.length_cons, List.length_nil] at count
      omega

/-- A zero write is no directive unless it is a malformed one. -/
theorem not_isDirective_of_isZeroWrite {line : SourceLine}
    (zero : LineKind.isZeroWrite line.characters = true) {found : Option Directive}
    (parsed : parse line = .ok found) : isDirective line.characters = false := by
  obtain ⟨front, blanks, blank, line_eq⟩ := LineKind.exists_of_isZeroWrite zero
  have words : Text.words line.characters = Text.words front ++ ["=".toList, "0;".toList] := by
    have separates : Text.isBlank ' ' = true := by decide
    have shape : line.characters =
        front ++ ' ' :: ("=".toList ++ ' ' :: ("0;".toList ++ blanks)) := by
      simpa using line_eq
    have equals : Text.words "=".toList = ["=".toList] :=
      Text.words_of_visible (by decide) (List.forall_mem_singleton.mpr (by decide))
    have value : Text.words ("0;".toList ++ blanks) = ["0;".toList] := by
      have stops : ∀ character ∈ blanks.head?, Text.isBlank character = true :=
        fun character first => blank character (List.mem_of_mem_head? first)
      have visible : ∀ character ∈ "0;".toList, Text.isBlank character = false :=
        List.forall_mem_cons.mpr ⟨by decide, List.forall_mem_singleton.mpr (by decide)⟩
      rw [Text.words_append_of_stops (by decide) visible stops, Text.words_of_blank blank]
    rw [shape, Text.words_append_cons _ separates, Text.words_append_cons _ separates, equals,
      value]
    rfl
  unfold parse at parsed
  unfold isDirective
  cases named : Keyword.ofLine? line.characters with
  | none => rfl
  | some keyword =>
      simp only [named] at parsed
      cases start : Text.words front with
      | nil =>
          have misses : Keyword.ofWord? "=".toList = none := by decide
          rw [Keyword.ofLine?, words, start] at named
          exact absurd (misses.symm.trans named) (by simp)
      | cons first others =>
          rw [words, start, List.cons_append, List.tail_cons] at parsed
          split at parsed
          · next directive accepted =>
            exact absurd accepted (ofArguments_ne_ok keyword others directive)
          · cases parsed

end Directive

namespace Assignment

theorem exists_read?_of_isZeroWrite {line : List Char} (zero : LineKind.isZeroWrite line = true) :
    ∃ assignment, read? line = some assignment := by
  obtain ⟨front, blanks, blank, rfl⟩ := LineKind.exists_of_isZeroWrite zero
  have sign : " = ".toList ≠ [] := by decide
  obtain ⟨left, right, found, ⟨before, rfl⟩⟩ :=
    Text.exists_cut sign front ("0;".toList ++ blanks)
  have absent : ';' ∉ blanks := fun inside => absurd (blank _ inside) (by decide)
  have source : Text.beforeLast ';' (before ++ ("0;".toList ++ blanks)) = before ++ ['0'] := by
    have shape : before ++ ("0;".toList ++ blanks) = (before ++ ['0']) ++ ';' :: blanks := by simp
    rw [shape, Text.beforeLast_append_cons absent]
  have digit : '0' ∈ Text.trim (before ++ ['0']) := by
    rcases Text.isBlank_or_mem_trim (show '0' ∈ before ++ ['0'] by simp) with blank | inside
    · exact absurd blank (by decide)
    · exact inside
  have filled := List.ne_nil_of_mem digit
  have line_eq : front ++ (" = 0;".toList ++ blanks) =
      front ++ (" = ".toList ++ ("0;".toList ++ blanks)) := by simp
  rw [read?, line_eq, found, Option.bind_some]
  simp only [source, if_neg filled]
  exact ⟨_, rfl⟩

end Assignment

end LayoutRecovery
