import LayoutRecovery.Directive
import LayoutRecovery.Proofs.Literal.Spelling

/-!
# Faults of directives

A line is a malformed directive exactly if its first word is `#` with one of the keywords directly
behind it, and either the number of further words is wrong, or it is right and the last of them is a
size that is not written as a number of bytes: decimal digits of a value below `2 ^ 64`, with at
most one plus sign in front.
-/

namespace LayoutRecovery

namespace Numeral

theorem digitValue?_ten (character : Char) :
    digitValue? 10 character =
      if character.isDigit then some (character.toNat - '0'.toNat) else none := by
  unfold digitValue?
  split
  · next digit =>
    have last : character.toNat ≤ 0x39 := (Char.isDigit_iff_toNat.mp digit).2
    have small : character.toNat - 0x30 < 10 := by omega
    simp only [Option.filter_some, small, decide_true, if_true]
    rfl
  · split
    · next letter =>
      have first : 0x61 ≤ character.toNat := letter.1
      have large : ¬ character.toNat - 0x57 < 10 := by omega
      simp [Option.filter_some, large]
    · split
      · next letter =>
        have first : 0x41 ≤ character.toNat := letter.1
        have large : ¬ character.toNat - 0x37 < 10 := by omega
        simp [Option.filter_some, large]
      · rfl

theorem foldlM_ten {row : List Char} (digits : ∀ character ∈ row, character.isDigit = true)
    (start : Nat) :
    row.foldlM (fun value character =>
      (digitValue? 10 character).map fun digit => value * 10 + digit) start =
        some (Nat.ofDigitChars 10 row start) := by
  induction row generalizing start with
  | nil => rfl
  | cons first rest ih =>
      have later := ih fun character inside => digits character (by simp [inside])
      have digit : digitValue? 10 first = some (first.toNat - '0'.toNat) := by
        rw [digitValue?_ten, if_pos (digits first (by simp))]
      rw [List.foldlM_cons, digit, Nat.ofDigitChars_cons, Nat.mul_comm]
      exact later _

theorem read?_ten_eq_some_iff {row : List Char} {value : Nat} :
    read? 10 row = some value ↔ row ≠ [] ∧ (∀ character ∈ row, character.isDigit = true) ∧
      Nat.ofDigitChars 10 row 0 = value := by
  have folded : row ≠ [] → (∀ character ∈ row, character.isDigit = true) →
      read? 10 row = some (Nat.ofDigitChars 10 row 0) := by
    intro filled digits
    cases row with
    | nil => exact absurd rfl filled
    | cons first rest => exact foldlM_ten digits 0
  constructor
  · intro found
    have filled : row ≠ [] := by
      rintro rfl
      cases found
    have digits : ∀ character ∈ row, character.isDigit = true := by
      intro character inside
      have some_value := isSome_digitValue?_of_read? found inside
      rw [digitValue?_ten] at some_value
      by_contra other
      simp [other] at some_value
    exact ⟨filled, digits, Option.some.inj ((folded filled digits).symm.trans found)⟩
  · rintro ⟨filled, digits, rfl⟩
    exact folded filled digits

end Numeral

namespace Keyword

theorem text_injective {left right : Keyword} (same : left.text = right.text) : left = right := by
  cases left <;> cases right <;> first | rfl | exact absurd same (by decide)

theorem ofWord?_eq_some_iff {word : List Char} {keyword : Keyword} :
    ofWord? word = some keyword ↔ word = '#' :: keyword.text.toList := by
  constructor
  · intro found
    obtain ⟨name, behind, named⟩ := Option.bind_eq_some_iff.mp found
    have same : keyword.text.toList = name := by simpa using List.find?_some named
    rw [Text.after?_eq_some_iff.mp behind, same]
    rfl
  · rintro rfl
    have behind : Text.after? ['#'] ('#' :: keyword.text.toList) = some keyword.text.toList :=
      Text.after?_eq_some_iff.mpr rfl
    rw [ofWord?, behind, Option.bind_some]
    cases keyword <;> decide

theorem ofLine?_eq_some_iff {line : List Char} {keyword : Keyword} :
    ofLine? line = some keyword ↔
      ∃ arguments, Text.words line = ('#' :: keyword.text.toList) :: arguments := by
  unfold ofLine?
  cases Text.words line with
  | nil => simp
  | cons first arguments => simp [ofWord?_eq_some_iff]

end Keyword

namespace Directive

/-- A token that writes a number of bytes: decimal digits, perhaps behind a plus sign, of a value
below `2 ^ 64`. -/
def IsByteCount (token : List Char) : Prop :=
  ∃ row, (token = row ∨ token = '+' :: row) ∧ row ≠ [] ∧
    (∀ character ∈ row, character.isDigit = true) ∧ Nat.ofDigitChars 10 row 0 < UInt64.size

/-- What is wrong with a line that starts with a keyword. -/
inductive Faulty (line : List Char) : Keyword → DirectiveFault → Prop
  | miscounted {keyword : Keyword} {arguments : List (List Char)}
      (written : Text.words line = ('#' :: keyword.text.toList) :: arguments)
      (count : arguments.length ≠ keyword.arity) :
      Faulty line keyword (.argumentCount keyword.arity arguments.length)
  | unsized {keyword : Keyword} {arguments : List (List Char)} {token : List Char}
      (written : Text.words line = ('#' :: keyword.text.toList) :: arguments)
      (count : arguments.length = keyword.arity)
      (sized : keyword = .subroutine ∨ keyword = .totalSize)
      (last : arguments.getLast? = some token) (foreign : ¬ IsByteCount token) :
      Faulty line keyword (.notByteCount (String.ofList token))

theorem isSome_readWord?_ten_iff {row : List Char} :
    (Numeral.readWord? 10 row).isSome = true ↔ row ≠ [] ∧
      (∀ character ∈ row, character.isDigit = true) ∧ Nat.ofDigitChars 10 row 0 < UInt64.size := by
  rw [Option.isSome_iff_exists]
  constructor
  · rintro ⟨word, found⟩
    have read := Numeral.readWord?_eq_some_iff.mp found
    obtain ⟨filled, digits, value⟩ := Numeral.read?_ten_eq_some_iff.mp read
    exact ⟨filled, digits, value ▸ word.toNat_lt⟩
  · rintro ⟨filled, digits, small⟩
    refine ⟨UInt64.ofNatLT (Nat.ofDigitChars 10 row 0) small,
      Numeral.readWord?_eq_some_iff.mpr (Numeral.read?_ten_eq_some_iff.mpr ⟨filled, digits, ?_⟩)⟩
    rw [UInt64.toNat_ofNatLT]

/-- No row of digits starts with a plus sign, so the sign that is found is left out. -/
theorem readPlusWord?_ten_eq_some_iff {token : List Char} {word : UInt64} :
    Numeral.readPlusWord? 10 token = some word ↔
      ∃ row, (token = row ∨ token = '+' :: row) ∧ Numeral.readWord? 10 row = some word := by
  unfold Numeral.readPlusWord?
  cases signed : Text.after? ['+'] token with
  | none =>
      rw [Option.getD_none]
      constructor
      · exact fun read => ⟨token, .inl rfl, read⟩
      · rintro ⟨row, rfl | rfl, read⟩
        · exact read
        · rw [Text.after?_eq_some_iff.mpr (show '+' :: row = ['+'] ++ row from rfl)] at signed
          cases signed
  | some row =>
      obtain rfl := Text.after?_eq_some_iff.mp signed
      rw [Option.getD_some]
      constructor
      · exact fun read => ⟨row, .inr rfl, read⟩
      · rintro ⟨other, rfl | same, read⟩
        · have digit : (Numeral.digitValue? 10 '+').isSome = true :=
            Numeral.isSome_digitValue?_of_read? (Numeral.readWord?_eq_some_iff.mp read) (by simp)
          exact absurd digit (by decide)
        · obtain rfl : row = other := (List.cons.inj same).2
          exact read

theorem isSome_readPlusWord?_iff {token : List Char} :
    (Numeral.readPlusWord? 10 token).isSome = true ↔ IsByteCount token := by
  simp only [Option.isSome_iff_exists, readPlusWord?_ten_eq_some_iff, IsByteCount,
    ← isSome_readWord?_ten_iff]
  constructor
  · rintro ⟨word, row, written, read⟩
    exact ⟨row, written, word, read⟩
  · rintro ⟨row, written, word, read⟩
    exact ⟨word, row, written, read⟩

theorem byteCount_eq_error_iff {token : List Char} {fault : DirectiveFault} :
    byteCount token = .error fault ↔
      ¬ IsByteCount token ∧ fault = .notByteCount (String.ofList token) := by
  rw [← isSome_readPlusWord?_iff]
  unfold byteCount
  cases Numeral.readPlusWord? 10 token with
  | none => simp [eq_comm]
  | some bytes => simp

/-- A wrong number of arguments is found before anything else. -/
theorem ofArguments_of_length_ne {keyword : Keyword} {arguments : List (List Char)}
    (count : arguments.length ≠ keyword.arity) :
    ofArguments keyword arguments =
      .error (.argumentCount keyword.arity arguments.length) := by
  unfold ofArguments
  split
  case h_8 => rfl
  all_goals exact absurd rfl count

/-- With the right number of arguments only a size can be at fault, which is the last argument. -/
theorem ofArguments_eq_error_iff_of_length {keyword : Keyword} {arguments : List (List Char)}
    (count : arguments.length = keyword.arity) {fault : DirectiveFault} :
    ofArguments keyword arguments = .error fault ↔
      (keyword = .subroutine ∨ keyword = .totalSize) ∧
        ∃ token, arguments.getLast? = some token ∧ ¬ IsByteCount token ∧
          fault = .notByteCount (String.ofList token) := by
  have mapped : ∀ {token : List Char} {make : Size → Directive},
      (byteCount token).map make = .error fault ↔ byteCount token = .error fault := by
    intro token make
    cases byteCount token <;> simp [Except.map]
  cases keyword with
  | subroutine =>
      obtain ⟨name, targetType, size, rfl⟩ := List.length_eq_three.mp count
      simp [ofArguments, mapped, byteCount_eq_error_iff]
  | totalSize =>
      obtain ⟨size, rfl⟩ := List.length_eq_one_iff.mp count
      simp [ofArguments, mapped, byteCount_eq_error_iff]
  | className =>
      obtain ⟨name, rfl⟩ := List.length_eq_one_iff.mp count
      simp [ofArguments]
  | keepTerminators | keepCaseCalls | reportSizes | absorbSlack =>
      obtain rfl := List.length_eq_zero_iff.mp count
      simp [ofArguments]

/-- The keyword of a directive. -/
def keyword : Directive → Keyword
  | subroutine _ => .subroutine
  | className _ => .className
  | keepTerminators => .keepTerminators
  | keepCaseCalls => .keepCaseCalls
  | totalSize _ => .totalSize
  | reportSizes => .reportSizes
  | absorbSlack => .absorbSlack

theorem keyword_of_ofArguments {keyword : Keyword} {arguments : List (List Char)}
    {directive : Directive} (accepted : ofArguments keyword arguments = .ok directive) :
    directive.keyword = keyword := by
  have sized : ∀ {token : List Char} {make : Size → Directive} {named : Keyword},
      (∀ size, (make size).keyword = named) → (byteCount token).map make = .ok directive →
        directive.keyword = named := by
    intro token make named same mapped
    cases counted : byteCount token with
    | error fault => simp [counted, Except.map] at mapped
    | ok size =>
        rw [counted] at mapped
        exact Except.ok.inj mapped ▸ same size
  unfold ofArguments at accepted
  split at accepted
  case h_1 => exact sized (fun _ => rfl) accepted
  case h_3 => exact sized (fun _ => rfl) accepted
  case h_8 => cases accepted
  all_goals
    obtain rfl := Except.ok.inj accepted
    rfl

theorem ofLine?_of_parse {line : SourceLine} {directive : Directive}
    (parsed : parse line = .ok (some directive)) :
    Keyword.ofLine? line.characters = some directive.keyword := by
  unfold parse at parsed
  split at parsed
  · cases parsed
  · next keyword named =>
    split at parsed
    · next found accepted =>
      rw [Option.some.inj (Except.ok.inj parsed)] at accepted
      rw [named, keyword_of_ofArguments accepted]
    · cases parsed

/-- A line that can be read carries a directive exactly if it starts with a keyword. -/
theorem isDirective_of_parse {line : SourceLine} {found : Option Directive}
    (parsed : parse line = .ok found) : isDirective line.characters = found.isSome := by
  cases found with
  | some directive =>
      rw [isDirective, ofLine?_of_parse parsed]
      rfl
  | none =>
      unfold parse at parsed
      split at parsed
      · next foreign =>
        rw [isDirective, foreign]
        rfl
      · split at parsed <;> cases parsed

theorem parse_eq_error_iff_ofArguments {line : SourceLine} {error : MalformedDirective} :
    parse line = .error error ↔ error.line = line.number ∧ ∃ arguments,
      Text.words line.characters = ('#' :: error.keyword.text.toList) :: arguments ∧
        ofArguments error.keyword arguments = .error error.fault := by
  unfold parse
  cases named : Keyword.ofLine? line.characters with
  | none =>
      refine iff_of_false (by simp) ?_
      rintro ⟨-, arguments, written, -⟩
      rw [Keyword.ofLine?_eq_some_iff.mpr ⟨arguments, written⟩] at named
      cases named
  | some keyword =>
      obtain ⟨arguments, written⟩ := Keyword.ofLine?_eq_some_iff.mp named
      simp only [written, List.tail_cons]
      constructor
      · intro failed
        split at failed
        · cases failed
        · next fault rejected =>
          obtain rfl := Except.error.inj failed
          exact ⟨rfl, arguments, rfl, rejected⟩
      · rintro ⟨number, others, same, rejected⟩
        obtain ⟨word, rfl⟩ := List.cons.inj same
        have texts := String.toList_injective (List.cons.inj word).2
        rw [Keyword.text_injective texts, rejected, ← number]

/-- A line is rejected for exactly what is wrong with it. -/
theorem parse_eq_error_iff {line : SourceLine} {error : MalformedDirective} :
    parse line = .error error ↔
      error.line = line.number ∧ Faulty line.characters error.keyword error.fault := by
  rw [parse_eq_error_iff_ofArguments]
  refine and_congr_right fun _ => ?_
  obtain ⟨number, keyword, fault⟩ := error
  dsimp only
  constructor
  · rintro ⟨arguments, written, failed⟩
    by_cases count : arguments.length = keyword.arity
    · obtain ⟨sized, token, last, foreign, rfl⟩ :=
        (ofArguments_eq_error_iff_of_length count).mp failed
      exact .unsized written count sized last foreign
    · rw [ofArguments_of_length_ne count] at failed
      obtain rfl := Except.error.inj failed
      exact .miscounted written count
  · intro faulty
    cases faulty with
    | miscounted written count => exact ⟨_, written, ofArguments_of_length_ne count⟩
    | unsized written count sized last foreign =>
        exact ⟨_, written,
          (ofArguments_eq_error_iff_of_length count).mpr ⟨sized, _, last, foreign, rfl⟩⟩

end Directive
end LayoutRecovery
