import LayoutRecovery.Proofs.Addend.Remainder
import LayoutRecovery.Proofs.Scalar.ZeroWrite
import LayoutRecovery.Proofs.Text.Words
import LayoutRecovery.Proofs.Transcript.Outcome

/-!
# Switches

A switch is a directive without arguments.  Each heuristic has one switch, which always sets it to
the same value, so that it does not matter among which other directives a switch stands: it changes
the context in which a body is read as if it came last.  Read as a line of the body, a switch
neither writes nor signs anything.
-/

namespace LayoutRecovery

namespace Addend

theorem find?_eq_none_of_unsigned {text : List Char}
    (unsigned : ∀ negative, sign negative ∉ text) : find? text = none := by
  unfold find?
  cases scaled : scaled? text with
  | some found =>
      obtain ⟨inner, within, -⟩ := exists_within_of_scaled? scaled
      exact absurd within.sign_mem (unsigned _)
  | none => rw [plain?, plainFrom?_of_unsigned unsigned, Option.map_none]

end Addend

/-- What the directive of a heuristic sets it to. -/
def Heuristic.switched : Heuristic → Bool
  | skipTerminators => false
  | skipCaseCalls => false
  | reportSizes => true
  | absorbSlack => true

/-- The context with a heuristic set by its directive. -/
def Context.switch (context : Context) (heuristic : Heuristic) : Context :=
  context.setHeuristic heuristic heuristic.switched

/-- The heuristic that a directive sets. -/
def Directive.heuristic? : Directive → Option Heuristic
  | keepTerminators => some .skipTerminators
  | keepCaseCalls => some .skipCaseCalls
  | reportSizes => some .reportSizes
  | absorbSlack => some .absorbSlack
  | subroutine _ => none
  | className _ => none
  | totalSize _ => none

namespace Context

theorem apply_of_heuristic? {directive : Directive} {heuristic : Heuristic}
    (sets : directive.heuristic? = some heuristic) (context : Context) :
    context.apply directive = context.switch heuristic := by
  cases directive <;> cases sets <;> rfl

/-- No directive sets a heuristic to anything but what its switch does. -/
theorem apply_switch (context : Context) (heuristic : Heuristic) (directive : Directive) :
    (context.switch heuristic).apply directive = (context.apply directive).switch heuristic := by
  cases heuristic <;> cases directive <;> rfl

theorem foldl_apply_switch (context : Context) (heuristic : Heuristic)
    (directives : List Directive) :
    directives.foldl apply (context.switch heuristic) =
      (directives.foldl apply context).switch heuristic := by
  induction directives generalizing context with
  | nil => rfl
  | cons directive rest ih => rw [List.foldl_cons, List.foldl_cons, apply_switch, ih]

end Context

/-! ## The directives of an input -/

namespace Directive

/-- The directive that a text writes, if it writes one. -/
def ofText? (text : String) : Option Directive :=
  (parse { index := 0, text }).toOption.join

/-- What a line instructs does not depend on its number. -/
theorem ofText?_of_parse {line : SourceLine} {found : Option Directive}
    (parsed : parse line = .ok found) : ofText? line.text = found := by
  have characters : ({ index := 0, text := line.text } : SourceLine).characters =
      line.characters := rfl
  simp only [ofText?, parse, characters] at parsed ⊢
  split at parsed
  · rw [← Except.ok.inj parsed]
    rfl
  · split at parsed
    · rw [← Except.ok.inj parsed]
      rfl
    · cases parsed

end Directive

theorem Context.context_applyDirectives {context : Context} {lines : List SourceLine} {count : Nat}
    (applied : (context.applyDirectives lines).result = .ok count) :
    (context.applyDirectives lines).context =
      ((lines.map SourceLine.text).filterMap Directive.ofText?).foldl apply context := by
  induction lines generalizing context count with
  | nil => rfl
  | cons line rest ih =>
      simp only [applyDirectives] at applied ⊢
      cases parsed : Directive.parse line with
      | error error => simp [parsed] at applied
      | ok found =>
          rw [List.map_cons, List.filterMap_cons, Directive.ofText?_of_parse parsed]
          cases found with
          | none =>
              simp only [parsed] at applied
              exact ih applied
          | some directive =>
              simp only [parsed] at applied
              cases others : ((context.apply directive).applyDirectives rest).result with
              | error error => simp [others, Except.map] at applied
              | ok others_count => exact ih others

/-! ## Lines that are switches -/

namespace Directive

/-- A line that consists of the keyword of a switch. -/
def IsSwitch (line : List Char) : Prop :=
  ∃ keyword : Keyword, keyword.arity = 0 ∧ Text.words line = ['#' :: keyword.text.toList]

variable {line : List Char}

theorem IsSwitch.exists_parse (switch : IsSwitch line) :
    ∃ directive heuristic, directive.heuristic? = some heuristic ∧
      ∀ source : SourceLine, source.characters = line → parse source = .ok (some directive) := by
  obtain ⟨keyword, arity, written⟩ := switch
  have named : Keyword.ofLine? line = some keyword := Keyword.ofLine?_eq_some_iff.mpr ⟨[], written⟩
  have accepted : ∃ directive heuristic, directive.heuristic? = some heuristic ∧
      ofArguments keyword [] = .ok directive := by
    cases keyword with
    | keepTerminators => exact ⟨_, _, rfl, rfl⟩
    | keepCaseCalls => exact ⟨_, _, rfl, rfl⟩
    | reportSizes => exact ⟨_, _, rfl, rfl⟩
    | absorbSlack => exact ⟨_, _, rfl, rfl⟩
    | subroutine => cases arity
    | className => cases arity
    | totalSize => cases arity
  obtain ⟨directive, heuristic, sets, accepted⟩ := accepted
  refine ⟨directive, heuristic, sets, ?_⟩
  rintro source rfl
  simp only [parse, named, written, List.tail_cons, accepted]

theorem IsSwitch.isDirective (switch : IsSwitch line) : isDirective line = true := by
  obtain ⟨keyword, -, written⟩ := switch
  rw [Directive.isDirective, Keyword.ofLine?_eq_some_iff.mpr ⟨[], written⟩]
  rfl

theorem IsSwitch.not_mem (switch : IsSwitch line) {mark : Char}
    (visible : Text.isBlank mark = false) (differs : mark ≠ '#')
    (foreign : ∀ keyword : Keyword, mark ∉ keyword.text.toList) : mark ∉ line := by
  intro inside
  obtain ⟨keyword, -, written⟩ := switch
  rcases Text.isBlank_or_mem_words inside with blank | ⟨word, among, held⟩
  · rw [visible] at blank
    cases blank
  · rw [written, List.mem_singleton] at among
    rw [among, List.mem_cons] at held
    exact held.elim differs (foreign keyword)

theorem IsSwitch.not_isZeroWrite (switch : IsSwitch line) :
    LineKind.isZeroWrite line = false := by
  obtain ⟨directive, heuristic, -, parsed⟩ := switch.exists_parse
  let source : SourceLine := { index := 0, text := String.ofList line }
  have same : source.characters = line := String.toList_ofList
  cases zero : LineKind.isZeroWrite line with
  | false => rfl
  | true =>
      have spoken := not_isDirective_of_isZeroWrite (same.symm ▸ zero) (parsed source same)
      rw [same, switch.isDirective] at spoken
      cases spoken

theorem IsSwitch.writeTarget? (switch : IsSwitch line) : Call.writeTarget? line = none := by
  have unsigned : ∀ negative, Addend.sign negative ∉ line := by
    intro negative
    cases negative <;>
      exact switch.not_mem (by decide) (by decide) fun keyword => by cases keyword <;> decide
  have unequal : '=' ∉ line :=
    switch.not_mem (by decide) (by decide) fun keyword => by cases keyword <;> decide
  unfold Call.writeTarget?
  split
  · next target source parts =>
    refine absurd ?_ unequal
    rw [Text.eq_append_of_cut parts]
    simp
  · exact Addend.find?_eq_none_of_unsigned unsigned

theorem IsSwitch.not_isSignature (switch : IsSwitch line) : LineKind.isSignature line = false := by
  have closed : '(' ∉ line :=
    switch.not_mem (by decide) (by decide) fun keyword => by cases keyword <;> decide
  simp [LineKind.isSignature, closed]

theorem IsSwitch.sound (switch : IsSwitch line) (keyword : Keyword) (fault : DirectiveFault) :
    ¬ Faulty line keyword fault := by
  obtain ⟨directive, heuristic, -, parsed⟩ := switch.exists_parse
  let source : SourceLine := { index := 0, text := String.ofList line }
  have same : source.characters = line := String.toList_ofList
  have sound := exists_parse_iff.mp ⟨_, parsed source same⟩ keyword fault
  rwa [same] at sound

end Directive

/-! ## A switch anywhere in an input -/

variable {front back : List String} {directive : String}

/-- A switch never makes an input malformed. -/
theorem Directive.sound_insert_iff (switch : IsSwitch directive.toList) :
    Sound (front ++ directive :: back) ↔ Sound (front ++ back) := by
  simp only [Sound, List.forall_mem_append, List.forall_mem_cons]
  exact and_congr_right fun _ => ⟨And.right, fun rest => ⟨switch.sound, rest⟩⟩

theorem start_ofTexts (style : Style) (heuristics : Heuristics) {texts : List String}
    (sound : Directive.Sound texts) :
    style.start heuristics (SourceLine.ofTexts texts) =
      (texts.filterMap Directive.ofText?).foldl Context.apply
        (Context.initial heuristics style.memberStem) := by
  obtain ⟨count, applied⟩ := exists_applyDirectives_ofTexts_iff.mpr sound
  have carried := Context.context_applyDirectives applied
  rw [SourceLine.map_text_ofTexts] at carried
  exact carried

/-- Wherever a switch stands, the body is read as if it came last. -/
theorem exists_start_insert (style : Style) (heuristics : Heuristics)
    (switch : Directive.IsSwitch directive.toList) :
    ∃ heuristic, ∀ front back, Directive.Sound (front ++ back) →
      style.start heuristics (SourceLine.ofTexts (front ++ directive :: back)) =
        (style.start heuristics (SourceLine.ofTexts (front ++ back))).switch heuristic := by
  obtain ⟨instruction, heuristic, sets, parsed⟩ := switch.exists_parse
  refine ⟨heuristic, fun front back sound => ?_⟩
  let source : SourceLine := { index := 0, text := directive }
  have found : Directive.ofText? source.text = some instruction :=
    Directive.ofText?_of_parse (parsed source rfl)
  have instructions : (front ++ directive :: back).filterMap Directive.ofText? =
      front.filterMap Directive.ofText? ++ instruction :: back.filterMap Directive.ofText? := by
    rw [List.filterMap_append, List.filterMap_cons_some found]
  rw [start_ofTexts style heuristics sound,
    start_ofTexts style heuristics ((Directive.sound_insert_iff switch).mpr sound), instructions,
    List.filterMap_append, List.foldl_append, List.foldl_append, List.foldl_cons,
    Context.apply_of_heuristic? sets]
  exact Context.foldl_apply_switch ..

theorem start_insert_congr (style : Style) (heuristics : Heuristics)
    (switch : Directive.IsSwitch directive.toList) {left right : List String}
    (same : front ++ back = left ++ right) (sound : Directive.Sound (left ++ right)) :
    style.start heuristics (SourceLine.ofTexts (front ++ directive :: back)) =
      style.start heuristics (SourceLine.ofTexts (left ++ directive :: right)) := by
  obtain ⟨heuristic, starts⟩ := exists_start_insert style heuristics switch
  rw [starts front back (same ▸ sound), starts left right sound, same]

end LayoutRecovery
