import LayoutRecovery.Config.Basic
import LayoutRecovery.Proofs.Directive.Instruction
import LayoutRecovery.Proofs.Transcript.Suppression

/-!
# Choices of presentation

Whether slack is absorbed and whether sizes are reported decides only how a class is shown.  No line
is read in another way for it, and the contexts along a body differ in nothing else.
-/

namespace LayoutRecovery

/-- Heuristics with other choices of what is shown. -/
def Heuristics.presenting (heuristics : Heuristics) (absorbs reports : Bool) : Heuristics :=
  { heuristics with absorbSlack := absorbs, reportSizes := reports }

/-- A configuration with other choices of what is shown. -/
def Config.presenting (config : Config) (absorbs reports : Bool) : Config :=
  { config with heuristics := config.heuristics.presenting absorbs reports }

/-- What a run shows of slack and of sizes. -/
structure Presentation where
  /-- Whether gaps behind strings are left without padding. -/
  absorbs : Bool
  /-- Whether the accumulated size is given behind the members of a line. -/
  reports : Bool
  deriving DecidableEq

/-- What a configuration shows, together with the directives of an input.  Slack is only absorbed
where terminators are skipped. -/
def Config.presentation (config : Config) (directives : List Directive) : Presentation where
  absorbs :=
    (config.heuristics.absorbSlack || decide (.absorbSlack ∈ directives)) &&
      (config.heuristics.skipTerminators && decide (.keepTerminators ∉ directives))
  reports := config.heuristics.reportSizes || decide (.reportSizes ∈ directives)

/-- What is shown in a context. -/
def Context.presentation (context : Context) : Presentation where
  absorbs := context.hints.absorbsSlack
  reports := context.heuristics.reportSizes

/-- The flags of a configuration and the directives of an input decide what is shown. -/
theorem Context.Instructed.presentation_eq {config : Config} {memberStem : String}
    {directives : List Directive} {context : Context}
    (instructed : context.Instructed config.heuristics memberStem directives) :
    context.presentation = config.presentation directives := by
  have absorbs : context.hints.absorbsSlack = (config.presentation directives).absorbs := by
    rw [Bool.eq_iff_iff]
    simp [hints, Config.presentation, instructed.absorbSlack, instructed.skipTerminators]
  have reports : context.heuristics.reportSizes = (config.presentation directives).reports := by
    rw [Bool.eq_iff_iff]
    simp [Config.presentation, instructed.reportSizes]
  rw [presentation, absorbs, reports]

/-- What is known about the members before plays no part in where a run leads. -/
theorem Tally.run_map_arrival (tally : Tally) (left right : Hints) (members : List Member) :
    tally.run (members.map (Member.arrival left)) =
      tally.run (members.map (Member.arrival right)) := by
  simp only [run_eq_foldl, List.map_map]
  rfl

namespace Context

/-- A context with other choices of what is shown. -/
def presenting (context : Context) (absorbs reports : Bool) : Context :=
  { context with heuristics := context.heuristics.presenting absorbs reports }

variable (context : Context) (absorbs reports : Bool)

@[simp]
theorem tally_presenting : (context.presenting absorbs reports).tally = context.tally := rfl

@[simp]
theorem heuristics_presenting : (context.presenting absorbs reports).heuristics =
    context.heuristics.presenting absorbs reports := rfl

@[simp]
theorem previousLine_presenting :
    (context.presenting absorbs reports).previousLine = context.previousLine := rfl

theorem tally_placeAll_presenting (declared : List Member) :
    ((context.presenting absorbs reports).placeAll declared).context.tally =
      (context.placeAll declared).context.tally := by
  rw [tally_placeAll, tally_placeAll]
  exact Tally.run_map_arrival ..

theorem read_presenting (kind : LineKind) (line : SourceLine) (next : Option SourceLine) :
    (context.presenting absorbs reports).read kind line next = context.read kind line next := by
  cases kind <;> rfl

theorem declaredBy_presenting (line : SourceLine) (next : Option SourceLine) :
    (context.presenting absorbs reports).declaredBy line next = context.declaredBy line next := by
  simp only [declaredBy, read_presenting]
  rfl

theorem step_presenting (line : SourceLine) (next : Option SourceLine) :
    ((context.presenting absorbs reports).step line next).context =
      (context.step line next).context.presenting absorbs reports := by
  have shown := (context.presenting absorbs reports).step_places line next
  have plain := context.step_places line next
  rw [declaredBy_presenting] at shown
  apply Context.ext
  · rw [tally_presenting, shown.tally, plain.tally]
    exact Tally.run_map_arrival ..
  · exact shown.settings.subroutines.trans plain.settings.subroutines.symm
  · rw [heuristics_presenting, shown.settings.heuristics, plain.settings.heuristics]
    rfl
  · exact shown.settings.declaredSize.trans plain.settings.declaredSize.symm
  · exact shown.settings.className.trans plain.settings.className.symm
  · exact shown.settings.memberStem.trans plain.settings.memberStem.symm
  · rw [previousLine_step, declaredBy_presenting, previousLine_presenting,
      previousLine_presenting, previousLine_step]
  · rw [Bool.eq_iff_iff, suppressesNext_step_iff, declaredBy_presenting]
    exact (context.suppressesNext_step_iff line next).symm

theorem transcribe_presenting (lines : List SourceLine) :
    ((context.presenting absorbs reports).transcribe lines).context =
      (context.transcribe lines).context.presenting absorbs reports := by
  induction lines generalizing context with
  | nil => rfl
  | cons line rest ih =>
      rw [transcribe, transcribe, step_presenting]
      exact ih _

theorem declares_step_presenting (line : SourceLine) (next : Option SourceLine) :
    ((context.presenting absorbs reports).step line next).report.declares =
      (context.step line next).report.declares := by
  rw [Bool.eq_iff_iff, declares_step_iff, declares_step_iff, declaredBy_presenting]

theorem parsedLines_presenting (lines : List SourceLine) :
    ((context.presenting absorbs reports).transcribe lines).parsedLines =
      (context.transcribe lines).parsedLines := by
  induction lines generalizing context with
  | nil => rfl
  | cons line rest ih =>
      have others := ih (context.step line rest.head?).context
      rw [← step_presenting] at others
      simp only [Transcript.parsedLines, transcribe, List.countP_cons,
        declares_step_presenting] at others ⊢
      rw [others]

/-! ## Directives -/

theorem exists_apply_presenting (directive : Directive) :
    ∃ stillAbsorbs stillReports, (context.presenting absorbs reports).apply directive =
      (context.apply directive).presenting stillAbsorbs stillReports := by
  cases directive with
  | reportSizes => exact ⟨absorbs, true, rfl⟩
  | absorbSlack => exact ⟨true, reports, rfl⟩
  | _ => exact ⟨absorbs, reports, rfl⟩

/-- The directives of an input end alike whatever is shown. -/
theorem exists_applyDirectives_presenting (lines : List SourceLine) :
    ∃ stillAbsorbs stillReports,
      ((context.presenting absorbs reports).applyDirectives lines).context =
          (context.applyDirectives lines).context.presenting stillAbsorbs stillReports ∧
        ((context.presenting absorbs reports).applyDirectives lines).result =
          (context.applyDirectives lines).result := by
  induction lines generalizing context absorbs reports with
  | nil => exact ⟨absorbs, reports, rfl, rfl⟩
  | cons line rest ih =>
      simp only [applyDirectives]
      cases Directive.parse line with
      | error error => exact ⟨absorbs, reports, rfl, rfl⟩
      | ok found =>
          cases found with
          | none => exact ih ..
          | some directive =>
              obtain ⟨absorbs, reports, same⟩ :=
                context.exists_apply_presenting absorbs reports directive
              obtain ⟨absorbs, reports, contexts, results⟩ :=
                ih (context.apply directive) absorbs reports
              rw [← same] at contexts results
              exact ⟨absorbs, reports, contexts, congrArg (Except.map (· + 1)) results⟩

end Context
end LayoutRecovery
