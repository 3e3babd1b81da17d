import LayoutRecovery.Proofs.Transcript.Suppression

/-!
# Lines passed over

The report of a line tells whether the line was passed over as a string terminator, which happens
exactly if the heuristic is on, the line writes zero, and the line just before it was taken as a
string copy and declared something.  Such a line changes nothing but the mark that announced it, no
directive is ever passed over so, and behind the last line no terminator is awaited.
-/

namespace LayoutRecovery

/-- The report of a line that is passed over as a string terminator. -/
def SourceLine.terminatorReport (line : SourceLine) : LineReport where
  items := line.copyItems
  log :=
    [LogRecord.debug
      ("line" ++ toString line.number ++ ": skipping string terminator" ++ line.logOrigin)]
  declares := false

namespace Context

/-! ## What the report of a line tells -/

theorem logStem_append_ne (line : SourceLine) (kind : LineKind) (rest : String) :
    line.logStem kind ++ rest ≠
      "line" ++ toString line.number ++ ": skipping string terminator" ++ line.logOrigin := by
  intro same
  have texts := congrArg String.toList same
  simp only [SourceLine.logStem, String.toList_append, List.append_assoc,
    List.append_cancel_left_eq] at texts
  cases kind <;> simp [LineKind.column, LineKind.label, Text.padEnd] at texts

/-- The last message about a line that is carried out names its kind. -/
theorem exists_log_record (line : SourceLine) (kind : LineKind) (step : EmissionStep) :
    ∃ earlier severity rest, (record line kind step).report.log =
      earlier ++ [⟨severity, line.logStem kind ++ rest⟩] := by
  have joined : ∀ first second third : String,
      line.logStem kind ++ first ++ second ++ third =
        line.logStem kind ++ (first ++ second ++ third) := by
    intro first second third
    simp only [String.append_assoc]
  unfold record
  cases step.emission with
  | members items =>
      exact ⟨step.log, .info, _, by rw [← joined]; rfl⟩
  | remark items => exact ⟨step.log, .info, _, by rw [← joined]; rfl⟩
  | skipped reason => exact ⟨step.log, .debug, _, by rw [← joined]; rfl⟩
  | unparsed => exact ⟨step.log, .warning, _, by rw [← String.append_assoc]; rfl⟩

/-- The report of a line tells whether the line was awaited as a terminator. -/
theorem report_step_eq_iff (context : Context) (line : SourceLine) (next : Option SourceLine) :
    (context.step line next).report = line.terminatorReport ↔ context.suppressesNext = true := by
  constructor
  · intro same
    have log := congrArg LineReport.log same
    unfold step at log
    cases marked : context.suppressesNext with
    | true => rfl
    | false =>
        simp only [marked, Bool.false_eq_true, if_false] at log
        split at log
        · cases log
        · simp only [stepBody] at log
          split at log
          · next step _ =>
            obtain ⟨earlier, severity, rest, last⟩ :=
              exists_log_record line (LineKind.ofLine line.characters) step
            rw [last] at log
            rcases List.append_eq_singleton_iff.mp log with ⟨-, only⟩ | ⟨-, none⟩
            · have messages := congrArg LogRecord.message (List.singleton_inj.mp only)
              exact absurd messages (logStem_append_ne line _ rest)
            · cases none
          · have messages := congrArg LogRecord.message (List.singleton_inj.mp log)
            rw [LogRecord.debug, String.append_assoc] at messages
            exact absurd messages (logStem_append_ne line _ _)
  · intro marked
    simp only [step, marked, if_true]
    rfl

/-! ## A line of a body -/

/-- Some lines of a body end in a string copy that was taken as one and declared something. -/
def EndsInCopy (start : Context) (body front : List SourceLine) : Prop :=
  ∃ earlier copy report, front = earlier ++ [copy] ∧
    (start.transcribe body).reports[earlier.length]? = some report ∧
    report ≠ copy.terminatorReport ∧ Directive.isDirective copy.characters = false ∧
    LineKind.ofLine copy.characters = .copy ∧ report.declares = true

/-- What it means for a line of a body that its report tells of a terminator. -/
structure PassesOver (start : Context) (body front : List SourceLine) (line : SourceLine)
    (back : List SourceLine) (report : LineReport) : Prop where
  reported_iff : report = line.terminatorReport ↔
    start.heuristics.skipTerminators = true ∧ LineKind.isZeroWrite line.characters = true ∧
      start.EndsInCopy body front
  awaited_iff : report = line.terminatorReport ↔
    (start.after front (line :: back)).suppressesNext = true
  /-- Nothing is placed or remembered, only the mark is taken away. -/
  settles : report = line.terminatorReport →
    start.after (front ++ [line]) back = (start.after front (line :: back)).settle
  instructs : Directive.isDirective line.characters = true → report ≠ line.terminatorReport

theorem unmarked_of_declaredBy {context : Context} {line : SourceLine} {next : Option SourceLine}
    (filled : context.declaredBy line next ≠ []) :
    context.suppressesNext = false ∧ Directive.isDirective line.characters = false := by
  unfold declaredBy at filled
  split at filled
  · exact absurd rfl filled
  · next spoken => simpa using spoken

/-- A terminator is awaited exactly behind a copy that declared something. -/
theorem suppressesNext_after_iff_endsInCopy {start : Context}
    (unmarked : start.suppressesNext = false) (front : List SourceLine) (line : SourceLine)
    (back : List SourceLine) :
    (start.after front (line :: back)).suppressesNext = true ↔
      start.heuristics.skipTerminators = true ∧ LineKind.isZeroWrite line.characters = true ∧
        start.EndsInCopy (front ++ line :: back) front := by
  rcases List.eq_nil_or_concat' front with rfl | ⟨earlier, copy, rfl⟩
  · rw [after, unmarked]
    constructor
    · intro marked
      cases marked
    · rintro ⟨-, -, earlier, copy, report, shape, -⟩
      simp at shape
  · have settings := start.sameSettings_after earlier (copy :: line :: back)
    have report := start.getElem?_reports_transcribe earlier copy (line :: back)
    have whole : earlier ++ [copy] ++ line :: back = earlier ++ copy :: line :: back := by simp
    rw [whole, after_concat, List.head?_cons, suppressesNext_step_iff, settings.heuristics,
      Option.any_some, ← declares_step_iff]
    constructor
    · rintro ⟨enabled, zero, copies, declares⟩
      obtain ⟨spoken, body⟩ := unmarked_of_declaredBy ((declares_step_iff _ _ _).mp declares)
      refine ⟨enabled, zero, earlier, copy, _, rfl, report, fun same => ?_, body, copies, declares⟩
      rw [(report_step_eq_iff _ _ _).mp same] at spoken
      cases spoken
    · rintro ⟨enabled, zero, others, last, found, shape, reported, -, -, copies, declares⟩
      obtain ⟨rfl, same⟩ := List.append_inj' shape rfl
      obtain rfl := List.singleton_inj.mp same
      rw [report] at reported
      obtain rfl := Option.some.inj reported
      exact ⟨enabled, zero, copies, declares⟩

theorem suppressesNext_transcribe {start : Context} (unmarked : start.suppressesNext = false)
    (body : List SourceLine) : (start.transcribe body).context.suppressesNext = false := by
  rw [context_transcribe]
  rcases List.eq_nil_or_concat' body with rfl | ⟨front, line, rfl⟩
  · exact unmarked
  · rw [after_concat, ← Bool.not_eq_true, suppressesNext_step_iff]
    rintro ⟨-, follows, -⟩
    cases follows

end Context

/-- In every reconstruction that returns a class, a line is reported as a passed over terminator
exactly if the heuristic is on, it writes zero, and the line before it was taken as a string copy
and declared something. -/
theorem passesOver_of_reconstruct {style : Style} {heuristics : Heuristics}
    {fingerprint : String → UInt32} {lines : List SourceLine} {stub : Stub}
    (returns : (reconstruct style heuristics fingerprint lines).result = .ok (some stub)) :
    ∃ signature body, stub.ComesFrom style heuristics lines signature body ∧
      (∀ front line back, body = front ++ line :: back →
        ∃ report,
          ((style.start heuristics lines).transcribe body).reports[front.length]? = some report ∧
            (style.start heuristics lines).PassesOver body front line back report) ∧
      ((style.start heuristics lines).transcribe body).context.suppressesNext = false := by
  obtain ⟨signature, body, comes⟩ := exists_comesFrom_of_reconstruct returns
  have unmarked : (style.start heuristics lines).suppressesNext = false :=
    suppressesNext_applyDirectives ..
  refine ⟨signature, body, comes, ?_, Context.suppressesNext_transcribe unmarked body⟩
  rintro front line back rfl
  have reported := ((style.start heuristics lines).after front (line :: back)).report_step_eq_iff
    line back.head?
  have awaited := Context.suppressesNext_after_iff_endsInCopy unmarked front line back
  refine ⟨_, Context.getElem?_reports_transcribe _ front line back, reported.trans awaited,
    reported, fun same => ?_, fun instructs same => ?_⟩
  · rw [Context.after_concat]
    exact (Context.step_of_suppressed (reported.mp same) line back.head?).2.2
  · have zero := (awaited.mp (reported.mp same)).2.1
    rw [comes.not_isDirective_of_isZeroWrite (by simp) zero] at instructs
    cases instructs

/-- Of a body with two copies only the line behind the first copy is passed over: not the zero write
behind that one, and not the one that a directive parts from the second copy. -/
theorem passesOver_of_reconstruct_directive :
    let lines := SourceLine.ofTexts
      ["void f(int a1)", "  strncpy(a1, \"abc\", 4);", "  *(_BYTE *)(a1 + 3) = 0;",
        "  *(_DWORD *)(a1 + 4) = 0;", "  strncpy(a1 + 8, \"abc\", 4);", "#logsize",
        "  *(_BYTE *)(a1 + 11) = 0;"]
    let start := Style.start {} {} lines
    ∃ stub signature body, (reconstruct {} {} (fun _ => 0) lines).result = .ok (some stub) ∧
      stub.ComesFrom {} {} lines signature body ∧ body.length = 6 ∧
      (∀ front line back, body = front ++ line :: back →
        ∃ report, (start.transcribe body).reports[front.length]? = some report ∧
          start.PassesOver body front line back report ∧
          (report = line.terminatorReport ↔ front.length = 1)) ∧
      (start.transcribe body).context.suppressesNext = false := by
  intro lines start
  have returned : (reconstruct {} {} (fun _ => 0) lines).result.toOption.join.isSome = true := by
    decide +kernel
  obtain ⟨stub, found⟩ := Option.isSome_iff_exists.mp returned
  have returns := eq_ok_of_toOption found
  obtain ⟨signature, body, comes, passes, last⟩ := passesOver_of_reconstruct returns
  have whole : Stub.fromSignature lines = lines := by decide +kernel
  obtain ⟨-, rfl⟩ := List.cons.inj (whole.symm.trans comes.signed)
  have awaited : ∀ index < 6,
      (start.after (lines.tail.take index) (lines.tail.drop index)).suppressesNext = true ↔
        index = 1 := by decide +kernel
  refine ⟨stub, signature, lines.tail, returns, comes, rfl, fun front line back split => ?_, last⟩
  obtain ⟨report, reported, taken⟩ := passes front line back split
  refine ⟨report, reported, taken, taken.awaited_iff.trans ?_⟩
  have before : front.length < 6 := by
    have total := congrArg List.length split
    simp only [List.length_append, List.length_cons] at total
    have six : lines.tail.length = 6 := rfl
    omega
  have here := awaited front.length before
  rwa [split, List.take_left, List.drop_left] at here

end LayoutRecovery
