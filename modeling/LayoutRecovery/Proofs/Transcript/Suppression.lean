import LayoutRecovery.Proofs.Placement.Agreement
import LayoutRecovery.Proofs.Reconciliation.Distance
import LayoutRecovery.Proofs.Scalar.ZeroWrite
import LayoutRecovery.Proofs.Transcript.Course

/-!
# String terminators

A line is passed over as a string terminator exactly if the heuristic is on, the line is a zero
write, and the line just before it declared a string.  Where the zero write goes is not asked, so
that it can lie outside the string.  Every other zero write that is taken as a write declares
members at the place where it writes.
-/

namespace LayoutRecovery

theorem Copy.type_member (copy : Copy) (stem : String) : (copy.member stem).type = .string := by
  unfold member
  split <;> rfl

namespace Context

/-! ## One line -/

/-- The members of a line that do more than fill space are those that it declares. -/
theorem ordinary_step (context : Context) (line : SourceLine) (next : Option SourceLine) :
    Item.ordinary (context.step line next).report.items = context.declaredBy line next := by
  rw [Item.ordinary, members_step]
  exact context.settle.ordinary_placeAll fun _ inside => declaredBy_ordinary inside

theorem terminates_iff_of_read {context : Context} {kind : LineKind} {line : SourceLine}
    {next : Option SourceLine} {reading : Reading} {log : List LogRecord}
    (found : context.read kind line next = some (reading, log)) :
    reading.terminates = true ↔ context.heuristics.skipTerminators = true ∧
      next.any (fun following => LineKind.isZeroWrite following.characters) = true ∧
      kind = .copy ∧ reading.declared ≠ [] := by
  by_cases copies : kind = .copy
  · subst copies
    simp only [read] at found
    split at found
    · next copy _ =>
      cases found
      simp only [Copy.reading]
      split
      · next announced => simpa [Reading.terminates, Reading.declared] using announced
      · next silent => simpa [Reading.terminates, Reading.declared] using silent
    · cases found
      simp [Reading.terminates, Reading.declared]
  · simp [terminates_of_read found copies, copies]

/-- A line announces a terminator exactly if it is a copy that declares something, the heuristic is
on, and a zero write follows. -/
theorem suppressesNext_step_iff (context : Context) (line : SourceLine)
    (next : Option SourceLine) :
    (context.step line next).context.suppressesNext = true ↔
      context.heuristics.skipTerminators = true ∧
        next.any (fun following => LineKind.isZeroWrite following.characters) = true ∧
        LineKind.ofLine line.characters = .copy ∧ context.declaredBy line next ≠ [] := by
  have steps := context.steps_step line next
  generalize context.step line next = step at steps ⊢
  generalize context.declaredBy line next = declared at steps ⊢
  cases steps with
  | suppressed marked log => simp [passOver, settle]
  | directive unmarked instructs log => simp [passOver, unmarked]
  | inert unmarked body silent log => simp [passOver, unmarked]
  | read unmarked body reads log =>
      rw [← terminates_iff_of_read reads]
      simp [context_record, context_perform, context_placeAll, unmarked]

theorem exists_string_of_copy {context : Context} {line : SourceLine} {next : Option SourceLine}
    (copies : LineKind.ofLine line.characters = .copy)
    (filled : context.declaredBy line next ≠ []) :
    ∃ member, context.declaredBy line next = [member] ∧ member.type = .string := by
  unfold declaredBy at filled ⊢
  split
  · next silent => simp [silent] at filled
  · next spoken =>
    rw [if_neg spoken, copies, read] at filled
    rw [copies, read]
    cases parsed : Copy.read line.characters with
    | error found => simp [parsed, Reading.declared] at filled
    | ok copy =>
        refine ⟨copy.member context.memberStem, ?_, copy.type_member _⟩
        simp only [Copy.reading]
        split <;> rfl

theorem cursor_step_of_singleton {context : Context} {line : SourceLine}
    {next : Option SourceLine} {member : Member}
    (single : context.declaredBy line next = [member]) :
    (context.step line next).context.tally.cursor = ⟨member.offset, member.size⟩ := by
  rw [(context.step_places line next).tally, single]
  rfl

theorem step_of_suppressed {context : Context} (marked : context.suppressesNext = true)
    (line : SourceLine) (next : Option SourceLine) :
    (context.step line next).report.items = line.copyItems ∧
      (context.step line next).report.declares = false ∧
      (context.step line next).context = context.settle := by
  simp only [step, marked, if_true]
  exact ⟨rfl, rfl, rfl⟩

theorem exists_declared_of_zero {context : Context} (unmarked : context.suppressesNext = false)
    {line : SourceLine} (body : Directive.isDirective line.characters = false)
    (zero : LineKind.isZeroWrite line.characters = true)
    (writes : LineKind.ofLine line.characters = .write) (next : Option SourceLine) :
    ∃ assignment first rest, Assignment.read? line.characters = some assignment ∧
      context.declaredBy line next = first :: rest ∧
      first.offset = assignment.target.offset := by
  obtain ⟨assignment, read⟩ := Assignment.exists_read?_of_isZeroWrite zero
  have declared : context.declaredBy line next = assignment.members context.memberStem := by
    simp only [declaredBy, unmarked, body, Bool.or_self, Bool.false_eq_true, if_false, writes,
      Context.read, read, Reading.declared]
  have covers := assignment.covers_members context.memberStem
  rw [declared]
  generalize assignment.members context.memberStem = members at covers ⊢
  cases covers with
  | whole small stands => exact ⟨assignment, _, _, read, rfl, stands.offset⟩
  | halves first second => exact ⟨assignment, _, _, read, rfl, first.offset⟩

/-! ## A line behind others -/

/-- A line that writes zero behind the copy of a string, at which the cursor still stands. -/
structure Terminates (start : Context) (front : List SourceLine) (line : SourceLine)
    (back : List SourceLine) (member : Member) : Prop where
  enabled : start.heuristics.skipTerminators = true
  zero : LineKind.isZeroWrite line.characters = true
  copied : ∃ earlier copy, front = earlier ++ [copy] ∧
    LineKind.ofLine copy.characters = .copy ∧
    Item.ordinary
      ((start.after earlier (copy :: line :: back)).step copy (some line)).report.items = [member]
  string : member.type = .string
  cursor : (start.after front (line :: back)).tally.cursor = ⟨member.offset, member.size⟩

/-- A line is passed over exactly if it writes zero behind the copy of a string. -/
theorem suppressesNext_after_iff {start : Context} (unmarked : start.suppressesNext = false)
    (front : List SourceLine) (line : SourceLine) (back : List SourceLine) :
    (start.after front (line :: back)).suppressesNext = true ↔
      ∃ member, start.Terminates front line back member := by
  -- the mark is consumed by the very next line, so only the last line in front matters
  rcases List.eq_nil_or_concat' front with rfl | ⟨earlier, copy, rfl⟩
  · rw [after, unmarked]
    constructor
    · intro marked
      cases marked
    · rintro ⟨member, terminates⟩
      obtain ⟨earlier, copy, shape, -⟩ := terminates.copied
      simp at shape
  · have settings := start.sameSettings_after earlier (copy :: line :: back)
    rw [after_concat, List.head?_cons, suppressesNext_step_iff, settings.heuristics,
      Option.any_some]
    constructor
    · rintro ⟨enabled, zero, copies, filled⟩
      obtain ⟨member, single, string⟩ := exists_string_of_copy copies filled
      refine ⟨member, enabled, zero, ⟨earlier, copy, rfl, copies, ?_⟩, string, ?_⟩
      · rw [ordinary_step, single]
      · rw [after_concat]
        exact cursor_step_of_singleton single
    · rintro ⟨member, terminates⟩
      obtain ⟨others, last, shape, copies, single⟩ := terminates.copied
      obtain ⟨rfl, same⟩ := List.append_inj' shape rfl
      obtain rfl := List.singleton_inj.mp same
      rw [ordinary_step] at single
      exact ⟨terminates.enabled, terminates.zero, copies, by simp [single]⟩

/-- How a line is taken behind others, as regards string terminators. -/
structure TakesTerminators (start : Context) (front : List SourceLine) (line : SourceLine)
    (back : List SourceLine) (report : LineReport) : Prop where
  suppressed_iff : (start.after front (line :: back)).suppressesNext = true ↔
    ∃ member, start.Terminates front line back member
  /-- A line that is passed over leaves its copy and moves nothing. -/
  suppressed : (start.after front (line :: back)).suppressesNext = true →
    report.items = line.copyItems ∧ report.declares = false ∧
      (start.after (front ++ [line]) back).tally = (start.after front (line :: back)).tally
  /-- No zero write is a directive, whether it is passed over or not. -/
  plain : LineKind.isZeroWrite line.characters = true →
    Directive.isDirective line.characters = false
  /-- Any other zero write declares members if it is taken as a write. -/
  written : (start.after front (line :: back)).suppressesNext = false →
    LineKind.isZeroWrite line.characters = true → LineKind.ofLine line.characters = .write →
      ∃ assignment first rest, Assignment.read? line.characters = some assignment ∧
        Item.ordinary report.items = first :: rest ∧ first.offset = assignment.target.offset

end Context

theorem Stub.ComesFrom.not_isDirective_of_isZeroWrite {stub : Stub} {style : Style}
    {heuristics : Heuristics} {lines : List SourceLine} {signature : SourceLine}
    {body : List SourceLine} (comes : stub.ComesFrom style heuristics lines signature body)
    {line : SourceLine} (inside : line ∈ body)
    (zero : LineKind.isZeroWrite line.characters = true) :
    Directive.isDirective line.characters = false := by
  obtain ⟨count, applied⟩ := comes.applied
  obtain ⟨found, parsed⟩ :=
    exists_parse_of_applyDirectives applied (comes.mem_lines (List.mem_cons_of_mem _ inside))
  exact Directive.not_isDirective_of_isZeroWrite zero parsed

/-- In every reconstruction that returns a class, the lines passed over as string terminators are
the zero writes behind the copies of strings, wherever they write.  The other zero writes are no
directives either, and those that are taken as writes declare members where they write. -/
theorem takesTerminators_of_reconstruct {style : Style} {heuristics : Heuristics}
    {fingerprint : String → UInt32} {lines : List SourceLine} {stub : Stub}
    (returns : (reconstruct style heuristics fingerprint lines).result = .ok (some stub)) :
    ∃ signature body, stub.ComesFrom style heuristics lines signature body ∧
      ∀ front line back, body = front ++ line :: back →
        ∃ report,
          ((style.start heuristics lines).transcribe body).reports[front.length]? = some report ∧
            (style.start heuristics lines).TakesTerminators front line back report := by
  obtain ⟨signature, body, comes⟩ := exists_comesFrom_of_reconstruct returns
  refine ⟨signature, body, comes, ?_⟩
  rintro front line back rfl
  have unmarked : (style.start heuristics lines).suppressesNext = false :=
    suppressesNext_applyDirectives ..
  have plain : LineKind.isZeroWrite line.characters = true →
      Directive.isDirective line.characters = false :=
    comes.not_isDirective_of_isZeroWrite (by simp)
  refine ⟨_, Context.getElem?_reports_transcribe _ front line back,
    Context.suppressesNext_after_iff unmarked front line back, fun marked => ?_, plain,
    fun spoken zero writes => ?_⟩
  · obtain ⟨items, declares, context⟩ := Context.step_of_suppressed marked line back.head?
    refine ⟨items, declares, ?_⟩
    rw [Context.after_concat, context]
    rfl
  · rw [Context.ordinary_step]
    exact Context.exists_declared_of_zero spoken (plain zero) zero writes back.head?

/-- Of two zero writes behind a copy the first is passed over, and the second declares a member. -/
theorem takesTerminators_of_reconstruct_twice :
    let lines := SourceLine.ofTexts
      ["void f(int a1)", "  strncpy(a1, \"abc\", 4);", "  *(_BYTE *)(a1 + 3) = 0;",
        "  *(_DWORD *)(a1 + 4) = 0;"]
    let start := Style.start {} {} lines
    ∃ stub signature copy passed written,
      (reconstruct {} {} (fun _ => 0) lines).result = .ok (some stub) ∧
      stub.ComesFrom {} {} lines signature [copy, passed, written] ∧
      passed.text = "  *(_BYTE *)(a1 + 3) = 0;" ∧ written.text = "  *(_DWORD *)(a1 + 4) = 0;" ∧
      (∃ member report, start.Terminates [copy] passed [written] member ∧
        (start.transcribe [copy, passed, written]).reports[1]? = some report ∧
        report.items = passed.copyItems ∧ report.declares = false) ∧
      (¬ ∃ member, start.Terminates [copy, passed] written [] member) ∧
      Directive.isDirective written.characters = false ∧
      ∃ report first rest,
        (start.transcribe [copy, passed, written]).reports[2]? = some report ∧
        Item.ordinary report.items = first :: rest ∧ first.offset = ⟨4⟩ := by
  intro lines start
  have returned : (reconstruct {} {} (fun _ => 0) lines).result.toOption.join.isSome = true := by
    decide +kernel
  obtain ⟨stub, found⟩ := Option.isSome_iff_exists.mp returned
  have returns := eq_ok_of_toOption found
  obtain ⟨signature, body, comes, takes⟩ := takesTerminators_of_reconstruct returns
  have whole : Stub.fromSignature lines = lines := by decide +kernel
  obtain ⟨-, rfl⟩ := List.cons.inj (whole.symm.trans comes.signed)
  have marked : (start.after [lines[1]] [lines[2], lines[3]]).suppressesNext = true := by
    decide +kernel
  have spoken : (start.after [lines[1], lines[2]] [lines[3]]).suppressesNext = false := by
    decide +kernel
  have zero : LineKind.isZeroWrite lines[3].characters = true := by decide +kernel
  have writes : LineKind.ofLine lines[3].characters = .write := by decide +kernel
  have target : ((Assignment.read? lines[3].characters).map fun assignment =>
      assignment.target.offset) = some ⟨4⟩ := by decide +kernel
  obtain ⟨passed_report, passed_reported, passed⟩ := takes [lines[1]] lines[2] [lines[3]] rfl
  obtain ⟨member, terminates⟩ := passed.suppressed_iff.mp marked
  obtain ⟨items, declares, -⟩ := passed.suppressed marked
  obtain ⟨report, reported, written⟩ := takes [lines[1], lines[2]] lines[3] [] rfl
  have other : ¬ ∃ member, start.Terminates [lines[1], lines[2]] lines[3] [] member := by
    rw [← written.suppressed_iff, spoken]
    decide
  obtain ⟨assignment, first, rest, read, members, stands⟩ := written.written spoken zero writes
  rw [read, Option.map_some, Option.some_inj] at target
  exact ⟨stub, signature, lines[1], lines[2], lines[3], returns, comes, rfl, rfl,
    ⟨member, passed_report, terminates, passed_reported, items, declares⟩, other,
    written.plain zero, report, first, rest, reported, members, stands.trans target⟩

/-- A zero write that starts right behind the copied string is passed over as its terminator. -/
theorem suppresses_at_limit :
    let lines := SourceLine.ofTexts
      ["void sub_1(a1)", "  strncpy(a1 + 0, \"abc\", 0x10ui64);", "  *(_DWORD *)(a1 + 16) = 0;"]
    let start := Style.start {} {} lines
    ∃ stub signature copy line, (reconstruct {} {} (fun _ => 0) lines).result = .ok (some stub) ∧
      stub.ComesFrom {} {} lines signature [copy, line] ∧
      (start.after [copy] [line]).suppressesNext = true ∧
      ∃ member assignment, start.Terminates [copy] line [] member ∧
        Assignment.read? line.characters = some assignment ∧
        assignment.target.offset.toInt = member.limit := by
  intro lines start
  have returned : (reconstruct {} {} (fun _ => 0) lines).result.toOption.join.isSome = true := by
    decide +kernel
  obtain ⟨stub, found⟩ := Option.isSome_iff_exists.mp returned
  have returns := eq_ok_of_toOption found
  obtain ⟨signature, body, comes⟩ := exists_comesFrom_of_reconstruct returns
  have whole : Stub.fromSignature lines = lines := by decide +kernel
  obtain ⟨-, rfl⟩ := List.cons.inj (whole.symm.trans comes.signed)
  have unmarked : start.suppressesNext = false := suppressesNext_applyDirectives ..
  have marked : (start.after [lines[1]] [lines[2]]).suppressesNext = true := by decide +kernel
  obtain ⟨member, terminates⟩ :=
    (Context.suppressesNext_after_iff unmarked [lines[1]] lines[2] []).mp marked
  have meets : (Assignment.read? lines[2].characters).any (fun assignment =>
      decide (assignment.target.offset.toInt =
        (start.after [lines[1]] [lines[2]]).tally.cursor.limit)) = true := by decide +kernel
  obtain ⟨assignment, read, same⟩ := (Option.any_eq_true _ _).mp meets
  rw [decide_eq_true_eq, terminates.cursor] at same
  exact ⟨stub, signature, lines[1], lines[2], returns, comes, marked, member, assignment,
    terminates, read, same⟩

end LayoutRecovery
