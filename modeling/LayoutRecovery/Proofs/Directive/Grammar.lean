import LayoutRecovery.Proofs.Directive.Fault
import LayoutRecovery.Proofs.Literal.Row
import LayoutRecovery.Proofs.Text.Words

/-!
# The grammar of directives

What a line calls for, told from the words on it: nothing, if the first word is none of the keywords
behind a `#`; a rejection, if the number of further words is wrong or the one for a size writes no
number of bytes; else the directive with these words as they stand.  The white space around the
words makes no difference.
-/

namespace LayoutRecovery

namespace Directive

/-! ## Numbers of bytes -/

/-- A token that writes a size: decimal digits, perhaps behind a plus sign. -/
def Counts (token : List Char) (size : Size) : Prop :=
  ∃ row, (token = row ∨ token = '+' :: row) ∧ Numeral.Row 10 row size.toNat

theorem readPlusWord?_eq_some_iff_counts {token : List Char} {word : UInt64} :
    Numeral.readPlusWord? 10 token = some word ↔ Counts token ⟨word⟩ := by
  have small : 10 ≤ 16 := by decide
  simp only [readPlusWord?_ten_eq_some_iff, Numeral.readWord?_eq_some_iff,
    Numeral.Row.read?_eq_some_iff small]
  rfl

theorem byteCount_eq_ok_iff {token : List Char} {size : Size} :
    byteCount token = .ok size ↔ Counts token size := by
  have read : Numeral.readPlusWord? 10 token = some size.bytes ↔ Counts token size :=
    readPlusWord?_eq_some_iff_counts
  rw [← read]
  unfold byteCount
  cases Numeral.readPlusWord? 10 token with
  | none => simp
  | some bytes => simp [Size.ext_iff]

theorem byteCount_of_not_counts {token : List Char} (foreign : ∀ size, ¬ Counts token size) :
    byteCount token = .error (.notByteCount (String.ofList token)) := by
  cases counted : byteCount token with
  | ok size => exact absurd (byteCount_eq_ok_iff.mp counted) (foreign size)
  | error fault => rw [(byteCount_eq_error_iff.mp counted).2]

/-! ## What a line calls for -/

/-- The keywords and how many words stand behind each. -/
def forms : List (String × Nat) :=
  [("sub", 3), ("class", 1), ("nostrnull", 0), ("nolower", 0), ("size", 1), ("logsize", 0),
    ("strfixup", 0)]

/-- The keywords that stand alone and what they instruct. -/
def switches : List (String × Directive) :=
  [("nostrnull", keepTerminators), ("nolower", keepCaseCalls), ("logsize", reportSizes),
    ("strfixup", absorbSlack)]

/-- A rejected line: its number, the keyword and the reason. -/
structure Rejection where
  /-- The number of the line. -/
  line : Nat
  /-- The keyword on it. -/
  keyword : String
  /-- Why it is rejected. -/
  reason : String

/-- What is reported of a malformed directive. -/
def rejection (error : MalformedDirective) : Rejection :=
  { line := error.line, keyword := error.keyword.text, reason := error.fault.message }

/-- What the words of a line with a given number call for. -/
inductive CallsFor (number : Nat) :
    List (List Char) → Except Rejection (Option Directive) → Prop
  | empty : CallsFor number [] (.ok none)
  | foreign {first : List Char} {rest : List (List Char)}
      (unknown : ∀ form ∈ forms, first ≠ '#' :: form.1.toList) :
      CallsFor number (first :: rest) (.ok none)
  | miscounted {keyword : String} {arity : Nat} {arguments : List (List Char)}
      (known : (keyword, arity) ∈ forms) (count : arguments.length ≠ arity) :
      CallsFor number (('#' :: keyword.toList) :: arguments)
        (.error ⟨number, keyword, "expected " ++ toString arity ++ " argument(s), found "
          ++ toString arguments.length⟩)
  | unsizedMember {name targetType token : List Char} (foreign : ∀ size, ¬ Counts token size) :
      CallsFor number ["#sub".toList, name, targetType, token]
        (.error ⟨number, "sub", "`" ++ String.ofList token ++ "` is not a decimal byte count"⟩)
  | unsizedTotal {token : List Char} (foreign : ∀ size, ¬ Counts token size) :
      CallsFor number ["#size".toList, token]
        (.error ⟨number, "size", "`" ++ String.ofList token ++ "` is not a decimal byte count"⟩)
  | subroutine {name targetType token : List Char} {size : Size} (counts : Counts token size) :
      CallsFor number ["#sub".toList, name, targetType, token]
        (.ok (some (.subroutine
          { name := String.ofList name, targetType := String.ofList targetType, size })))
  | className {name : List Char} :
      CallsFor number ["#class".toList, name] (.ok (some (.className (String.ofList name))))
  | totalSize {token : List Char} {size : Size} (counts : Counts token size) :
      CallsFor number ["#size".toList, token] (.ok (some (.totalSize size)))
  | switch {keyword : String} {directive : Directive} (known : (keyword, directive) ∈ switches) :
      CallsFor number ['#' :: keyword.toList] (.ok (some directive))

theorem mem_forms_iff {keyword : String} {arity : Nat} :
    (keyword, arity) ∈ forms ↔ ∃ known : Keyword, known.text = keyword ∧ known.arity = arity := by
  have table : forms = Keyword.all.map fun known => (known.text, known.arity) := rfl
  have complete : ∀ known : Keyword, known ∈ Keyword.all := fun known => by
    cases known <;> decide
  simp [table, complete]

theorem exists_mem_switches {keyword : Keyword} (alone : keyword.arity = 0) :
    ∃ directive, (keyword.text, directive) ∈ switches := by
  cases keyword with
  | subroutine | className | totalSize => cases alone
  | keepTerminators | keepCaseCalls | reportSizes | absorbSlack => simp [switches, Keyword.text]

theorem exists_keyword_of_mem_switches {keyword : String} {directive : Directive}
    (known : (keyword, directive) ∈ switches) :
    ∃ found : Keyword, found.text = keyword ∧ ofArguments found [] = .ok directive := by
  simp only [switches, List.mem_cons, Prod.mk.injEq, List.not_mem_nil, or_false] at known
  rcases known with ⟨rfl, rfl⟩ | ⟨rfl, rfl⟩ | ⟨rfl, rfl⟩ | ⟨rfl, rfl⟩
  · exact ⟨.keepTerminators, rfl, rfl⟩
  · exact ⟨.keepCaseCalls, rfl, rfl⟩
  · exact ⟨.reportSizes, rfl, rfl⟩
  · exact ⟨.absorbSlack, rfl, rfl⟩

theorem parse_of_words {line : SourceLine} (keyword : Keyword) {arguments : List (List Char)}
    (written : Text.words line.characters = ('#' :: keyword.text.toList) :: arguments) :
    (parse line).mapError rejection = ((ofArguments keyword arguments).map some).mapError
      fun fault => ⟨line.number, keyword.text, fault.message⟩ := by
  have named := Keyword.ofLine?_eq_some_iff.mpr ⟨arguments, written⟩
  rw [parse, named]
  simp only [written, List.tail_cons]
  cases ofArguments keyword arguments <;> rfl

theorem parse_of_foreign {line : SourceLine} (foreign : Keyword.ofLine? line.characters = none) :
    parse line = .ok none := by
  unfold parse
  rw [foreign]

theorem CallsFor.parse {line : SourceLine} {answer : Except Rejection (Option Directive)}
    (calls : CallsFor line.number (Text.words line.characters) answer) :
    (Directive.parse line).mapError rejection = answer := by
  generalize written : Text.words line.characters = words at calls
  cases calls with
  | empty =>
      have foreign : Keyword.ofLine? line.characters = none := by rw [Keyword.ofLine?, written]; rfl
      rw [parse_of_foreign foreign]
      rfl
  | @foreign first rest unknown =>
      have foreign : Keyword.ofLine? line.characters = none := by
        rw [Option.eq_none_iff_forall_ne_some]
        intro keyword named
        obtain ⟨arguments, same⟩ := Keyword.ofLine?_eq_some_iff.mp named
        rw [written] at same
        exact unknown _ (mem_forms_iff.mpr ⟨keyword, rfl, rfl⟩) (List.cons.inj same).1
      rw [parse_of_foreign foreign]
      rfl
  | miscounted known count =>
      obtain ⟨keyword, rfl, rfl⟩ := mem_forms_iff.mp known
      rw [parse_of_words keyword written, ofArguments_of_length_ne count]
      rfl
  | unsizedMember foreign =>
      rw [parse_of_words .subroutine written]
      simp only [ofArguments, byteCount_of_not_counts foreign]
      rfl
  | unsizedTotal foreign =>
      rw [parse_of_words .totalSize written]
      simp only [ofArguments, byteCount_of_not_counts foreign]
      rfl
  | subroutine counts =>
      rw [parse_of_words .subroutine written]
      simp only [ofArguments, byteCount_eq_ok_iff.mpr counts]
      rfl
  | className =>
      rw [parse_of_words .className written]
      rfl
  | totalSize counts =>
      rw [parse_of_words .totalSize written]
      simp only [ofArguments, byteCount_eq_ok_iff.mpr counts]
      rfl
  | switch known =>
      obtain ⟨keyword, rfl, accepted⟩ := exists_keyword_of_mem_switches known
      rw [parse_of_words keyword written, accepted]
      rfl

/-- The right number of words behind a keyword calls for its directive, or a size is at fault. -/
theorem exists_callsFor_of_length (number : Nat) {keyword : Keyword}
    {arguments : List (List Char)} (count : arguments.length = keyword.arity) :
    ∃ answer, CallsFor number (('#' :: keyword.text.toList) :: arguments) answer := by
  cases keyword with
  | subroutine =>
      obtain ⟨name, targetType, token, rfl⟩ := List.length_eq_three.mp count
      by_cases counted : ∃ size, Counts token size
      · obtain ⟨size, counts⟩ := counted
        exact ⟨_, .subroutine counts⟩
      · exact ⟨_, .unsizedMember (not_exists.mp counted)⟩
  | className =>
      obtain ⟨name, rfl⟩ := List.length_eq_one_iff.mp count
      exact ⟨_, .className⟩
  | totalSize =>
      obtain ⟨token, rfl⟩ := List.length_eq_one_iff.mp count
      by_cases counted : ∃ size, Counts token size
      · obtain ⟨size, counts⟩ := counted
        exact ⟨_, .totalSize counts⟩
      · exact ⟨_, .unsizedTotal (not_exists.mp counted)⟩
  | keepTerminators | keepCaseCalls | reportSizes | absorbSlack =>
      obtain rfl := List.length_eq_zero_iff.mp count
      obtain ⟨directive, known⟩ := exists_mem_switches count.symm
      exact ⟨_, .switch known⟩

theorem exists_callsFor (number : Nat) (words : List (List Char)) :
    ∃ answer, CallsFor number words answer := by
  cases words with
  | nil => exact ⟨_, .empty⟩
  | cons first arguments =>
      by_cases known : ∃ keyword : Keyword, first = '#' :: keyword.text.toList
      · obtain ⟨keyword, rfl⟩ := known
        by_cases count : arguments.length = keyword.arity
        · exact exists_callsFor_of_length number count
        · exact ⟨_, .miscounted (mem_forms_iff.mpr ⟨keyword, rfl, rfl⟩) count⟩
      · refine ⟨_, .foreign ?_⟩
        rintro ⟨name, arity⟩ listed same
        obtain ⟨keyword, rfl, -⟩ := mem_forms_iff.mp listed
        exact known ⟨keyword, same⟩

theorem isDirective_iff {line : SourceLine} :
    isDirective line.characters = true ↔ parse line ≠ .ok none := by
  cases parsed : parse line with
  | error fault =>
      obtain ⟨arguments, written, -⟩ := (parse_eq_error_iff_ofArguments.mp parsed).2
      have named := Keyword.ofLine?_eq_some_iff.mpr ⟨arguments, written⟩
      simp [isDirective, named]
  | ok found =>
      rw [isDirective_of_parse parsed]
      cases found <;> simp

/-- Lines with the same words and the same number are read alike. -/
theorem parse_congr {line other : SourceLine}
    (words : Text.words other.characters = Text.words line.characters)
    (number : other.index = line.index) : parse other = parse line := by
  simp only [parse, Keyword.ofLine?, words, SourceLine.number, number]

/--
A line is read as what its words call for: nothing, a directive, or a rejection with the number of
the line, the keyword and the reason.  Lines that differ in the white space around and between
their words are read alike.
-/
theorem parse_iff_callsFor (line : SourceLine) :
    ∃ words, (∀ others, Text.Spaced line.characters others ↔ others = words) ∧
      (∀ answer, (parse line).mapError rejection = answer ↔
        CallsFor (line.index + 1) words answer) ∧
      (isDirective line.characters = true ↔ parse line ≠ .ok none) ∧
      ∀ other : SourceLine, other.index = line.index → Text.Spaced other.characters words →
        parse other = parse line ∧
          isDirective other.characters = isDirective line.characters := by
  refine ⟨Text.words line.characters, fun others => Text.spaced_iff.trans eq_comm, fun answer => ?_,
    isDirective_iff, fun other number spaced => ?_⟩
  · constructor
    · intro read
      obtain ⟨called, calls⟩ := exists_callsFor line.number (Text.words line.characters)
      rwa [← read, calls.parse]
    · exact CallsFor.parse
  · have words := spaced.words_eq
    refine ⟨parse_congr words number, ?_⟩
    rw [isDirective, Keyword.ofLine?, words]
    rfl

/-- A size behind a plus sign, with white space of two kinds. -/
theorem parse_spaced_size :
    Text.Spaced "#size +128".toList ["#size".toList, "+128".toList] ∧
      (parse ⟨4, "\t#size  +128 "⟩).mapError rejection = .ok (some (.totalSize ⟨128⟩)) ∧
        parse ⟨4, "#size +128"⟩ = parse ⟨4, "\t#size  +128 "⟩ := by
  have spaced : Text.Spaced "\t#size  +128 ".toList ["#size".toList, "+128".toList] :=
    Text.spaced_iff.mpr (by decide)
  have other : Text.Spaced "#size +128".toList ["#size".toList, "+128".toList] :=
    Text.spaced_iff.mpr (by decide)
  have row : Numeral.Row 10 "128".toList 128 :=
    (Numeral.Row.read?_eq_some_iff (by decide)).mp (by decide)
  obtain ⟨words, unique, called, -, alike⟩ := parse_iff_callsFor ⟨4, "\t#size  +128 "⟩
  obtain rfl := (unique _).mp spaced
  exact ⟨other, (called _).mpr (.totalSize ⟨_, .inr rfl, row⟩),
    (alike ⟨4, "#size +128"⟩ rfl other).1⟩

end Directive
end LayoutRecovery
