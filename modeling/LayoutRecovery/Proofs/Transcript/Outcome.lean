import LayoutRecovery.Proofs.Directive.Fault
import LayoutRecovery.Proofs.Transcript.Course

/-!
# Outcomes

How a reconstruction ends can be read off the lines of its input.  The first malformed directive
anywhere in the input ends it with an error; without one, an input without a signature gives
nothing, and any other input a class whose header quotes the first signature.
-/

namespace LayoutRecovery

/-! ## Malformed directives -/

namespace Directive

/-- No line of an input is a malformed directive. -/
def Sound (texts : List String) : Prop :=
  ∀ text ∈ texts, ∀ keyword fault, ¬ Faulty text.toList keyword fault

/-- What is wrong with the first malformed directive of an input, and on which line it stands. -/
def FirstFault (texts : List String) (error : MalformedDirective) : Prop :=
  ∃ front text back, texts = front ++ text :: back ∧ Sound front ∧
    error.line = front.length + 1 ∧ Faulty text.toList error.keyword error.fault

theorem exists_parse_iff {line : SourceLine} :
    (∃ found, parse line = .ok found) ↔
      ∀ keyword fault, ¬ Faulty line.characters keyword fault := by
  constructor
  · rintro ⟨found, parsed⟩ keyword fault faulty
    have rejected : parse line = .error ⟨line.number, keyword, fault⟩ :=
      parse_eq_error_iff.mpr ⟨rfl, faulty⟩
    rw [rejected] at parsed
    cases parsed
  · intro sound
    cases parsed : parse line with
    | ok found => exact ⟨found, rfl⟩
    | error error => exact absurd (parse_eq_error_iff.mp parsed).2 (sound _ _)

theorem exists_firstFault_of_faulty {texts : List String} {text : String} (inside : text ∈ texts)
    {keyword : Keyword} {fault : DirectiveFault} (faulty : Faulty text.toList keyword fault) :
    ∃ error, FirstFault texts error := by
  induction texts with
  | nil => cases inside
  | cons first rest ih =>
      by_cases sound : ∀ keyword fault, ¬ Faulty first.toList keyword fault
      · have later : text ∈ rest := by
          rcases List.mem_cons.mp inside with rfl | later
          · exact absurd faulty (sound _ _)
          · exact later
        obtain ⟨error, front, other, back, rfl, others, -, found⟩ := ih later
        refine ⟨⟨front.length + 2, error.keyword, error.fault⟩, first :: front, other, back, rfl,
          ?_, rfl, found⟩
        intro before member
        rcases List.mem_cons.mp member with rfl | member
        · exact sound
        · exact others before member
      · push Not at sound
        obtain ⟨keyword, fault, found⟩ := sound
        exact ⟨⟨1, keyword, fault⟩, [], first, rest, rfl, by simp [Sound], rfl, found⟩

end Directive

/-- A line that cannot be read ends the directives of an input behind lines that can. -/
theorem result_applyDirectives_of_split {context : Context} {front back : List SourceLine}
    {line : SourceLine} {error : MalformedDirective}
    (read : ∀ other ∈ front, ∃ found, Directive.parse other = .ok found)
    (failed : Directive.parse line = .error error) :
    (context.applyDirectives (front ++ line :: back)).result = .error error := by
  induction front generalizing context with
  | nil => simp only [List.nil_append, Context.applyDirectives, failed]
  | cons first front ih =>
      obtain ⟨found, parsed⟩ := read first (by simp)
      have later := fun other inside => read other (List.mem_cons_of_mem first inside)
      cases found with
      | none =>
          simp only [List.cons_append, Context.applyDirectives, parsed]
          exact ih later
      | some directive =>
          simp only [List.cons_append, Context.applyDirectives, parsed, ih later]
          rfl

theorem exists_split_of_applyDirectives_error {context : Context} {lines : List SourceLine}
    {error : MalformedDirective}
    (failed : (context.applyDirectives lines).result = .error error) :
    ∃ front line back, lines = front ++ line :: back ∧
      (∀ other ∈ front, ∃ found, Directive.parse other = .ok found) ∧
      Directive.parse line = .error error := by
  induction lines generalizing context with
  | nil => cases failed
  | cons first rest ih =>
      have later : ∀ found, Directive.parse first = .ok found →
          ∀ next : Context, (next.applyDirectives rest).result = .error error →
            ∃ front line back, first :: rest = front ++ line :: back ∧
              (∀ other ∈ front, ∃ found, Directive.parse other = .ok found) ∧
              Directive.parse line = .error error := by
        intro found parsed next rejected
        obtain ⟨front, line, back, rfl, read, failed⟩ := ih rejected
        exact ⟨first :: front, line, back, rfl, List.forall_mem_cons.mpr ⟨⟨found, parsed⟩, read⟩,
          failed⟩
      simp only [Context.applyDirectives] at failed
      split at failed
      · next found parsed =>
        obtain rfl := Except.error.inj failed
        exact ⟨[], first, rest, rfl, by simp, parsed⟩
      · next parsed => exact later _ parsed _ failed
      · next directive parsed =>
        cases result : ((context.apply directive).applyDirectives rest).result with
        | error found =>
            rw [result] at failed
            obtain rfl := Except.error.inj failed
            exact later _ parsed _ result
        | ok count =>
            rw [result] at failed
            cases failed

namespace SourceLine

theorem index_of_ofTexts {texts : List String} {front back : List SourceLine} {line : SourceLine}
    (split : ofTexts texts = front ++ line :: back) : line.index = front.length := by
  have found : (ofTexts texts)[front.length]? = some line := by
    rw [split, List.getElem?_append_right (Nat.le_refl _), Nat.sub_self]
    rfl
  simp only [ofTexts, List.getElem?_map, List.getElem?_zipIdx, Option.map_map] at found
  obtain ⟨text, -, rfl⟩ := Option.map_eq_some_iff.mp found
  exact Nat.zero_add _

theorem exists_split_ofTexts (front : List String) (text : String) (back : List String) :
    ∃ before line behind, ofTexts (front ++ text :: back) = before ++ line :: behind ∧
      before.map SourceLine.text = front ∧ line.text = text ∧ line.index = front.length := by
  have texts := map_text_ofTexts (front ++ text :: back)
  obtain ⟨before, others, split, rfl, rest⟩ := List.map_eq_append_iff.mp texts
  obtain ⟨line, behind, rfl, rfl, -⟩ := List.map_eq_cons_iff.mp rest
  refine ⟨before, line, behind, split, rfl, rfl, ?_⟩
  rw [index_of_ofTexts split, List.length_map]

end SourceLine

/-- The directives of an input fail exactly with its first fault. -/
theorem result_applyDirectives_ofTexts_eq_error_iff {context : Context} {texts : List String}
    {error : MalformedDirective} :
    (context.applyDirectives (SourceLine.ofTexts texts)).result = .error error ↔
      Directive.FirstFault texts error := by
  constructor
  · intro failed
    obtain ⟨front, line, back, split, read, rejected⟩ :=
      exists_split_of_applyDirectives_error failed
    obtain ⟨number, faulty⟩ := Directive.parse_eq_error_iff.mp rejected
    refine ⟨front.map SourceLine.text, line.text, back.map SourceLine.text, ?_, ?_, ?_, faulty⟩
    · rw [← SourceLine.map_text_ofTexts texts, split, List.map_append, List.map_cons]
    · intro text inside keyword fault
      obtain ⟨other, member, rfl⟩ := List.mem_map.mp inside
      exact Directive.exists_parse_iff.mp (read other member) keyword fault
    · rw [number, SourceLine.number, SourceLine.index_of_ofTexts split, List.length_map]
  · rintro ⟨front, text, back, rfl, sound, number, faulty⟩
    obtain ⟨before, line, behind, split, rfl, rfl, index⟩ :=
      SourceLine.exists_split_ofTexts front text back
    rw [split]
    refine result_applyDirectives_of_split ?_ (Directive.parse_eq_error_iff.mpr ⟨?_, faulty⟩)
    · intro other member
      exact Directive.exists_parse_iff.mpr (sound _ (List.mem_map_of_mem member))
    · rw [number, SourceLine.number, index]

/-! ## Signatures -/

/-- A line that starts with a mark behind nothing but white space. -/
def Text.OpensWith (mark line : List Char) : Prop :=
  ∃ blanks rest, line = blanks ++ mark ++ rest ∧ ∀ character ∈ blanks, isBlank character = true

theorem Text.opensWith_iff {first : Char} {mark line : List Char} (solid : isBlank first = false) :
    OpensWith (first :: mark) line ↔ (first :: mark) <+: trimStart line := by
  constructor
  · rintro ⟨blanks, rest, rfl, blank⟩
    rw [trimStart, List.append_assoc, List.dropWhile_append_of_pos blank, List.cons_append,
      List.dropWhile_cons_of_neg (by simp [solid])]
    exact ⟨rest, rfl⟩
  · rintro ⟨rest, found⟩
    refine ⟨line.takeWhile isBlank, rest, ?_, fun character => List.mem_takeWhile_imp⟩
    rw [List.append_assoc, found]
    exact List.takeWhile_append_dropWhile.symm

/-- A line that can be the signature of the subroutine: it has both parentheses and starts neither a
comment nor a directive. -/
structure SourceLine.Signs (line : List Char) : Prop where
  opened : '(' ∈ line
  closed : ')' ∈ line
  spoken : ¬ Text.OpensWith ['/', '/'] line
  foreign : ¬ Text.OpensWith ['#'] line

open SourceLine (Signs)

theorem LineKind.isSignature_iff {line : List Char} : isSignature line = true ↔ Signs line := by
  have comment : ("//".toList).isPrefixOf (Text.trimStart line) = true ↔
      Text.OpensWith ['/', '/'] line := by
    rw [Text.opensWith_iff (by decide)]
    exact List.isPrefixOf_iff_prefix
  have directive : ("#".toList).isPrefixOf (Text.trimStart line) = true ↔
      Text.OpensWith ['#'] line := by
    rw [Text.opensWith_iff (by decide)]
    exact List.isPrefixOf_iff_prefix
  simp only [isSignature, Bool.and_eq_true, Bool.not_eq_true', ← Bool.not_eq_true, comment,
    directive, List.contains_iff_mem]
  constructor
  · rintro ⟨⟨⟨opened, closed⟩, spoken⟩, foreign⟩
    exact ⟨opened, closed, spoken, foreign⟩
  · rintro ⟨opened, closed, spoken, foreign⟩
    exact ⟨⟨⟨opened, closed⟩, spoken⟩, foreign⟩

/-- The first signature of an input. -/
def FirstSignature (texts : List String) (signature : String) : Prop :=
  ∃ front back, texts = front ++ signature :: back ∧
    (∀ text ∈ front, ¬ Signs text.toList) ∧ Signs signature.toList

namespace Stub

theorem fromSignature_eq_nil_iff {texts : List String} :
    fromSignature (SourceLine.ofTexts texts) = [] ↔ ∀ text ∈ texts, ¬ Signs text.toList := by
  have lines : (∀ text ∈ texts, ¬ Signs text.toList) ↔
      ∀ line ∈ SourceLine.ofTexts texts, ¬ Signs line.characters := by
    rw [← SourceLine.map_text_ofTexts texts, List.forall_mem_map, SourceLine.map_text_ofTexts]
    rfl
  simp only [lines, fromSignature, List.dropWhile_eq_nil_iff, Bool.not_eq_true',
    ← Bool.not_eq_true, LineKind.isSignature_iff]

theorem fromSignature_of_split {front : List SourceLine} {line : SourceLine}
    (unsigned : ∀ other ∈ front, ¬ Signs other.characters) (signs : Signs line.characters)
    (back : List SourceLine) : fromSignature (front ++ line :: back) = line :: back := by
  have passed : ∀ other ∈ front, (!LineKind.isSignature other.characters) = true := by
    intro other member
    rw [Bool.not_eq_true', ← Bool.not_eq_true, LineKind.isSignature_iff]
    exact unsigned other member
  have found : ¬ (!LineKind.isSignature line.characters) = true := by
    rw [Bool.not_eq_true', Bool.not_eq_false]
    exact LineKind.isSignature_iff.mpr signs
  rw [fromSignature, List.dropWhile_append_of_pos passed]
  exact List.dropWhile_cons_of_neg found

theorem exists_fromSignature_ofTexts {front : List String} {signature : String}
    (back : List String) (unsigned : ∀ text ∈ front, ¬ Signs text.toList)
    (signs : Signs signature.toList) :
    ∃ line body, fromSignature (SourceLine.ofTexts (front ++ signature :: back)) = line :: body ∧
      line.text = signature ∧ body.map SourceLine.text = back := by
  obtain ⟨before, line, behind, split, rfl, rfl, -⟩ :=
    SourceLine.exists_split_ofTexts front signature back
  have texts := SourceLine.map_text_ofTexts (before.map SourceLine.text ++ line.text :: back)
  rw [split, List.map_append, List.map_cons, List.append_cancel_left_eq] at texts
  refine ⟨line, behind, ?_, rfl, (List.cons.inj texts).2⟩
  rw [split]
  exact fromSignature_of_split (fun _ member => unsigned _ (List.mem_map_of_mem member)) signs
    behind

theorem exists_fromSignature_iff {texts : List String} {signature : String} :
    (∃ line body, fromSignature (SourceLine.ofTexts texts) = line :: body ∧
      line.text = signature) ↔ FirstSignature texts signature := by
  constructor
  · rintro ⟨line, body, signed, rfl⟩
    let unsigned : SourceLine → Bool := fun line => !LineKind.isSignature line.characters
    have split : (SourceLine.ofTexts texts).takeWhile unsigned ++ line :: body =
        SourceLine.ofTexts texts := by
      rw [← signed]
      exact List.takeWhile_append_dropWhile
    have signs : unsigned line = false := by
      have head := List.head?_dropWhile_not unsigned (SourceLine.ofTexts texts)
      rwa [show (SourceLine.ofTexts texts).dropWhile unsigned = line :: body from signed] at head
    refine ⟨((SourceLine.ofTexts texts).takeWhile unsigned).map SourceLine.text,
      body.map SourceLine.text, ?_, ?_, ?_⟩
    · rw [← List.map_cons, ← List.map_append, split, SourceLine.map_text_ofTexts]
    · intro text inside signs
      obtain ⟨other, member, rfl⟩ := List.mem_map.mp inside
      have passed := List.mem_takeWhile_imp member
      rw [Bool.not_eq_true'] at passed
      exact Bool.noConfusion (passed.symm.trans (LineKind.isSignature_iff.mpr signs))
    · rw [Bool.not_eq_false'] at signs
      exact LineKind.isSignature_iff.mp signs
  · rintro ⟨front, back, rfl, unsigned, signs⟩
    obtain ⟨line, body, signed, text, -⟩ := exists_fromSignature_ofTexts back unsigned signs
    exact ⟨line, body, signed, text⟩

/-- A class whose text starts with a comment that quotes a signature. -/
structure Quotes (stub : Stub) (signature : String) : Prop where
  header : stub.header.signature = signature
  text : ∃ rest, stub.render =
    "// generated output for subroutine:\n// " ++ signature ++ " -----> hash: " ++ rest

theorem quotes_signature (stub : Stub) : stub.Quotes stub.header.signature := by
  refine ⟨rfl, ?_⟩
  unfold render Header.render
  simp only [String.append_assoc]
  exact ⟨_, rfl⟩

end Stub

/-! ## The three outcomes -/

/-- Which of the three outcomes of a reconstruction the lines of an input call for. -/
structure Reconstruction.Answers (reconstruction : Reconstruction) (texts : List String) :
    Prop where
  failed : ∀ error, reconstruction.result = .error error ↔ Directive.FirstFault texts error
  fails : (∃ error, reconstruction.result = .error error) ↔
    ∃ text ∈ texts, ∃ keyword fault, Directive.Faulty text.toList keyword fault
  nothing : reconstruction.result = .ok none ↔
    Directive.Sound texts ∧ ∀ text ∈ texts, ¬ Signs text.toList
  returns : ∀ signature,
    (∃ stub, reconstruction.result = .ok (some stub) ∧ stub.Quotes signature) ↔
      Directive.Sound texts ∧ FirstSignature texts signature

theorem exists_applyDirectives_ofTexts_iff {context : Context} {texts : List String} :
    (∃ count, (context.applyDirectives (SourceLine.ofTexts texts)).result = .ok count) ↔
      Directive.Sound texts := by
  constructor
  · rintro ⟨count, applied⟩ text inside keyword fault faulty
    obtain ⟨error, first⟩ := Directive.exists_firstFault_of_faulty inside faulty
    rw [result_applyDirectives_ofTexts_eq_error_iff.mpr first] at applied
    cases applied
  · intro sound
    cases result : (context.applyDirectives (SourceLine.ofTexts texts)).result with
    | ok count => exact ⟨count, rfl⟩
    | error error =>
        obtain ⟨front, text, back, rfl, -, -, faulty⟩ :=
          result_applyDirectives_ofTexts_eq_error_iff.mp result
        exact absurd faulty (sound text (by simp) _ _)

/-- The lines of an input alone decide how its reconstruction ends. -/
theorem answers_reconstruct (style : Style) (heuristics : Heuristics)
    (fingerprint : String → UInt32) (texts : List String) :
    (reconstruct style heuristics fingerprint (SourceLine.ofTexts texts)).Answers texts := by
  have failed : ∀ error,
      (reconstruct style heuristics fingerprint (SourceLine.ofTexts texts)).result =
        .error error ↔ Directive.FirstFault texts error := fun error =>
    result_reconstruct_eq_error_iff.trans result_applyDirectives_ofTexts_eq_error_iff
  refine ⟨failed, ?_, ?_, fun signature => ?_⟩
  · constructor
    · rintro ⟨error, ends⟩
      obtain ⟨front, text, back, rfl, -, -, faulty⟩ := (failed error).mp ends
      exact ⟨text, by simp, _, _, faulty⟩
    · rintro ⟨text, inside, keyword, fault, faulty⟩
      obtain ⟨error, first⟩ := Directive.exists_firstFault_of_faulty inside faulty
      exact ⟨error, (failed error).mpr first⟩
  · rw [result_reconstruct_eq_none_iff, exists_applyDirectives_ofTexts_iff,
      Stub.fromSignature_eq_nil_iff]
  · rw [← exists_applyDirectives_ofTexts_iff,
      ← Stub.exists_fromSignature_iff]
    constructor
    · rintro ⟨stub, returns, quotes⟩
      obtain ⟨applied, line, body, signed, rfl⟩ := result_reconstruct_eq_some_iff.mp returns
      exact ⟨applied, line, body, signed, quotes.header⟩
    · rintro ⟨applied, line, body, signed, rfl⟩
      exact ⟨_, result_reconstruct_eq_some_iff.mpr ⟨applied, line, body, signed, rfl⟩,
        Stub.quotes_signature _⟩

end LayoutRecovery
