import LayoutRecovery.Proofs.Presentation.Passage

/-!
# One input shown in two ways

Two configurations that differ only in what is shown end every run alike.  If it returns a class,
both classes are made of the same passages before the same ending: one shows the padding behind
strings and the accumulated sizes that the other leaves out.
-/

namespace LayoutRecovery

namespace Passage

/-- Slack is padding: whatever is left out, all other members are shown. -/
theorem ordinary_items {passage : Passage} {last : Option Member} (fits : passage.Fits last)
    (absorbs reports : Bool) :
    Item.ordinary (passage.items absorbs reports) = Item.ordinary passage.pieces := by
  have slack : Item.ordinary (if absorbs then [] else passage.slack) = [] := by
    obtain nothing | ⟨-, string, tally, gap, -, -, -, padded⟩ := fits.slack
    · rw [nothing, ite_self]
      rfl
    · rw [padded]
      cases absorbs <;> rfl
  rw [Item.ordinary, members_items fits, List.filter_append]
  exact congrArg (· ++ Item.ordinary passage.pieces) slack

theorem Course.ordinary_eq {last : Option Member} {passages : List Passage}
    (course : Course last passages) (absorbs reports : Bool) :
    Item.ordinary (passages.flatMap (items absorbs reports)) =
      passages.flatMap fun passage => Item.ordinary passage.pieces := by
  induction passages generalizing last with
  | nil => rfl
  | cons passage rest ih =>
      obtain ⟨fits, later⟩ := course
      rw [List.flatMap_cons, List.flatMap_cons, Item.ordinary_append, ordinary_items fits, ih later]

end Passage

namespace Stub

/-- A class that is made of passages, of which a part is shown, and an ending. -/
structure Displays (stub : Stub) (shown : Presentation) (passages : List Passage)
    (ending : List Item) : Prop where
  body : stub.body = passages.flatMap (Passage.items shown.absorbs shown.reports) ++ ending
  text : stub.render =
    stub.header.render ++
      (String.join (passages.map fun passage =>
        Item.renderAll (passage.items shown.absorbs shown.reports)) ++
          Item.renderAll ending) ++ "\t\x7d\n\x7d\n"
  parsedLines : stub.parsedLines = passages.countP fun passage => passage.last?.isSome

/-- Classes that differ at most in padding and remarks. -/
structure Agrees (left right : Stub) : Prop where
  header : left.header = right.header
  parsedLines : left.parsedLines = right.parsedLines
  accumulated : left.accumulated = right.accumulated
  members : Item.ordinary left.body = Item.ordinary right.body

/-- Classes of one input that are shown in two ways.  They are made of the same passages; only the
padding directly behind a string is left out where slack is absorbed, and only the accumulated size
behind the members of a line is added where sizes are reported. -/
structure Varies (left right : Stub) (shown other : Presentation) : Prop where
  agrees : left.Agrees right
  passages : ∃ passages ending, left.Displays shown passages ending ∧
    right.Displays other passages ending ∧
    ∀ front passage back, passages = front ++ passage :: back → ∀ absorbs reports,
      passage.Fits (Item.members (front.flatMap (Passage.items absorbs reports))).getLast?

/-- What stands behind the lines of a class. -/
def ending (transcript : Transcript) : List Item :=
  transcript.context.closing ++
    [.remark (.accumulated transcript.context.tally.accumulated),
      .remark (.parsedLines transcript.parsedLines)]

theorem ending_presenting (context : Context) (absorbs reports : Bool) (lines : List SourceLine) :
    ending ((context.presenting absorbs reports).transcribe lines) =
      ending (context.transcribe lines) := by
  rw [ending, Context.transcribe_presenting, Context.parsedLines_presenting]
  rfl

theorem displays_ofTranscript (header : Header) {shown : Context} {lines : List SourceLine}
    {passages : List Passage}
    (items : (shown.transcribe lines).items =
      passages.flatMap (Passage.items shown.presentation.absorbs shown.presentation.reports))
    (count : (passages.countP fun passage => passage.last?.isSome) =
      (shown.transcribe lines).parsedLines) :
    (ofTranscript header (shown.transcribe lines)).Displays shown.presentation passages
      (ending (shown.transcribe lines)) := by
  have body : (ofTranscript header (shown.transcribe lines)).body =
      passages.flatMap (Passage.items shown.presentation.absorbs shown.presentation.reports) ++
        ending (shown.transcribe lines) := by
    rw [← items, ofTranscript, ending, List.append_assoc]
  refine ⟨body, ?_, count.symm⟩
  rw [render, body, Item.renderAll_append, Item.renderAll_flatMap]

theorem agrees_of_displays {left right : Stub} {shown other : Presentation}
    {passages : List Passage} {ending : List Item} {last : Option Member}
    (course : Passage.Course last passages)
    (first : left.Displays shown passages ending) (second : right.Displays other passages ending)
    (header : left.header = right.header) (accumulated : left.accumulated = right.accumulated) :
    left.Agrees right where
  header := header
  parsedLines := first.parsedLines.trans second.parsedLines.symm
  accumulated := accumulated
  members := by
    rw [first.body, second.body, Item.ordinary_append, Item.ordinary_append,
      course.ordinary_eq, course.ordinary_eq]

theorem varies_presenting {context : Context} (follows : context.Follows none) (header : Header)
    (absorbs reports : Bool) (lines : List SourceLine) :
    (ofTranscript header (context.transcribe lines)).Varies
      (ofTranscript header ((context.presenting absorbs reports).transcribe lines))
      context.presentation (context.presenting absorbs reports).presentation := by
  obtain ⟨passages, course, count, items⟩ := context.exists_course_transcribe follows lines
  have left := displays_ofTranscript header
    (items context.heuristics.absorbSlack context.heuristics.reportSizes) count
  have right := displays_ofTranscript header (items absorbs reports)
    (count.trans (context.parsedLines_presenting _ _ lines).symm)
  rw [ending_presenting] at right
  have accumulated : (context.transcribe lines).context.tally.accumulated =
      ((context.presenting absorbs reports).transcribe lines).context.tally.accumulated := by
    rw [Context.transcribe_presenting]
    rfl
  refine ⟨agrees_of_displays course left right rfl accumulated, passages, _, left, right, ?_⟩
  rintro front passage back rfl absorbs reports
  have fits := course.fits absorbs reports
  rw [Option.or_none] at fits
  exact fits

end Stub

/-- No line has declared members before the first line of a body. -/
theorem follows_start (style : Style) (heuristics : Heuristics) (lines : List SourceLine) :
    (style.start heuristics lines).Follows none := by
  have fresh : (style.start heuristics lines).previousLine = none :=
    previousLine_applyDirectives ..
  refine ⟨fun spoken => ?_, fun string ends => by cases ends⟩
  rw [Context.afterString, fresh] at spoken
  cases spoken

/-- Two runs that end with the same error, both with nothing, or with classes in a relation. -/
inductive EndAlike (relation : Stub → Stub → Prop) :
    Except MalformedDirective (Option Stub) → Except MalformedDirective (Option Stub) → Prop
  | error (error : MalformedDirective) : EndAlike relation (.error error) (.error error)
  | nothing : EndAlike relation (.ok none) (.ok none)
  | stub {left right : Stub} (related : relation left right) :
      EndAlike relation (.ok (some left)) (.ok (some right))

/-- Whatever is chosen to be shown of slack and of sizes, a run ends alike.  Two classes have the
same header, count, accumulated size and members but for padding, and their texts differ in what the
flags of the two configurations and the directives show and leave out. -/
theorem endAlike_reconstruct_presenting (config : Config) (absorbs reports : Bool)
    (lines : List SourceLine) :
    let other := config.presenting absorbs reports
    let directives := Directive.ofTexts (lines.map SourceLine.text)
    EndAlike
      (fun left right =>
        left.Varies right (config.presentation directives) (other.presentation directives))
      (config.reconstruct lines).result (other.reconstruct lines).result := by
  intro other directives
  let start := Context.initial config.heuristics config.style.memberStem
  have follows := follows_start config.style config.heuristics lines
  obtain ⟨stillAbsorbs, stillReports, contexts, results⟩ :=
    start.exists_applyDirectives_presenting absorbs reports lines
  have other_start : start.presenting absorbs reports =
      Context.initial other.heuristics config.style.memberStem := rfl
  rw [other_start] at contexts results
  simp only [Config.reconstruct, reconstruct]
  rw [show other.style = config.style from rfl, results, contexts]
  cases applied : (start.applyDirectives lines).result with
  | error error => exact .error error
  | ok count =>
      have shown : (start.applyDirectives lines).context.presentation =
          config.presentation directives :=
        (Context.instructed_of_applied applied).presentation_eq
      have other_shown : ((start.applyDirectives lines).context.presenting stillAbsorbs
          stillReports).presentation = other.presentation directives := by
        rw [← contexts]
        exact (Context.instructed_of_applied (results.trans applied)).presentation_eq
      rw [← shown, ← other_shown]
      cases Stub.fromSignature lines with
      | nil => exact .nothing
      | cons signature body => exact .stub (Stub.varies_presenting follows ..)

/-- Four bytes behind a string: a padding in one text, the sizes behind the members in the other. -/
theorem endAlike_reconstruct_presenting_four :
    let config : Config := {}
    let other := config.presenting true true
    let lines := SourceLine.ofTexts
      ["void f(int a1)", "  strncpy(a1, \"abc\", 4);", "  *(_DWORD *)(a1 + 8) = 5;"]
    ∃ left right, (config.reconstruct lines).result = .ok (some left) ∧
      (other.reconstruct lines).result = .ok (some right) ∧
      left.Varies right { absorbs := false, reports := false }
        { absorbs := true, reports := true } ∧
      (Item.members left.body).map Member.name = ["Unknown0", "Padding4", "Unknown8"] ∧
      (Item.members right.body).map Member.name = ["Unknown0", "Unknown8"] ∧
      left.body.count (.remark (.accumulated ⟨4⟩)) = 0 ∧
      right.body.count (.remark (.accumulated ⟨4⟩)) = 1 ∧
      left.render ≠ right.render := by
  intro config other lines
  have check : (config.reconstruct lines).result.toOption.join.any (fun left : Stub =>
      (other.reconstruct lines).result.toOption.join.any fun right : Stub => decide (
        (Item.members left.body).map Member.name = ["Unknown0", "Padding4", "Unknown8"] ∧
        (Item.members right.body).map Member.name = ["Unknown0", "Unknown8"] ∧
        left.body.count (.remark (.accumulated ⟨4⟩)) = 0 ∧
        right.body.count (.remark (.accumulated ⟨4⟩)) = 1 ∧
        left.render ≠ right.render)) = true := by
    decide +kernel
  obtain ⟨left, first, others⟩ := (Option.any_eq_true _ _).mp check
  obtain ⟨right, second, differ⟩ := (Option.any_eq_true _ _).mp others
  have returns := eq_ok_of_toOption first
  have other_returns := eq_ok_of_toOption second
  have shown : config.presentation (Directive.ofTexts (lines.map SourceLine.text)) =
      { absorbs := false, reports := false } := by decide +kernel
  have other_shown : other.presentation (Directive.ofTexts (lines.map SourceLine.text)) =
      { absorbs := true, reports := true } := by decide +kernel
  have ends := endAlike_reconstruct_presenting config true true lines
  dsimp only at ends
  rw [shown, show config.presenting true true = other from rfl, other_shown, returns,
    other_returns] at ends
  cases ends with
  | stub varies => exact ⟨left, right, returns, other_returns, varies, of_decide_eq_true differ⟩

end LayoutRecovery
