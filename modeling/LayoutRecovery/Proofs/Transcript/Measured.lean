import LayoutRecovery.Proofs.Placement.Aim
import LayoutRecovery.Proofs.Reconciliation.Gap
import LayoutRecovery.Proofs.Transcript.Suppression

/-!
# Measured calls

The bytes that stand for a call of an unknown subroutine reach up to the place that the line behind
it writes to.  The look ahead at that line reads the same part of it as the line's own turn does,
the left side of an assignment or a call as a whole, so that the member declared there starts where
the bytes end, and nothing is said between them.
-/

namespace LayoutRecovery

namespace Text

theorem exists_cut_of_occursIn {mark text : List Char} (filled : mark ≠ [])
    (occurs : occursIn mark text = true) : ∃ left right, cut mark text = some (left, right) := by
  obtain ⟨front, rest, rfl⟩ := occursIn_iff.mp occurs
  obtain ⟨left, right, found, -⟩ := exists_cut filled front rest
  exact ⟨left, right, by rw [List.append_assoc, found]⟩

end Text

namespace LineKind

theorem isAssignment_of_write {line : List Char} (writes : ofLine line = .write) :
    isAssignment line = true := by
  by_contra other
  simp only [ofLine] at writes
  split_ifs at writes

theorem not_isAssignment_of_call {line : List Char} (calls : ofLine line = .call) :
    isAssignment line = false := by
  simp only [ofLine] at calls
  split_ifs at calls with _ _ _ other
  exact Bool.not_eq_true _ ▸ other

theorem exists_cut_of_isAssignment {line : List Char} (assigns : isAssignment line = true) :
    ∃ target source, Text.cut " = ".toList line = some (target, source) := by
  simp only [isAssignment, Bool.and_eq_true] at assigns
  exact Text.exists_cut_of_occursIn (by decide) assigns.2

end LineKind

namespace SourceLine

/-- The part of a line that tells where the line writes: the left side of an assignment, or a call
as a whole. -/
inductive Written (line : SourceLine) : List Char → Prop
  | assignment {target source : List Char} (writes : LineKind.ofLine line.characters = .write)
      (parts : Text.cut " = ".toList line.characters = some (target, source)) :
      Written line target
  | call (calls : LineKind.ofLine line.characters = .call) : Written line line.characters

theorem exists_written {line : SourceLine}
    (kind : LineKind.ofLine line.characters = .write ∨ LineKind.ofLine line.characters = .call) :
    ∃ part, line.Written part := by
  rcases kind with writes | calls
  · obtain ⟨target, source, parts⟩ :=
      LineKind.exists_cut_of_isAssignment (LineKind.isAssignment_of_write writes)
    exact ⟨target, .assignment writes parts⟩
  · exact ⟨line.characters, .call calls⟩

variable {line : SourceLine} {part : List Char}

/-- The look ahead reads the part that tells where the line writes. -/
theorem Written.writeTarget? (written : line.Written part) :
    Call.writeTarget? line.characters = Addend.find? part := by
  cases written with
  | assignment writes parts =>
      simp only [Call.writeTarget?, parts, LineKind.isAssignment_of_write writes, if_true]
  | call calls =>
      simp only [Call.writeTarget?, LineKind.not_isAssignment_of_call calls]
      split <;> rfl

/-- In its own turn the line is read at the same part. -/
theorem Written.aims (written : line.Written part) :
    line.Aims (LineKind.ofLine line.characters) part := by
  cases written with
  | assignment writes parts =>
      rw [writes]
      exact .write parts
  | call calls =>
      rw [calls]
      exact .call

end SourceLine

namespace Context

/-- Bytes that stand for a call and end where the line behind it writes. -/
structure Measures (context : Context) (line next : SourceLine) (step : EmissionStep)
    (reached : Offset) (placeholder : Member) : Prop where
  type : placeholder.type = .bytes
  starts : placeholder.offset = (Call.ofLine line).target.offset
  bytes : (placeholder.size.toNat : Int) = reached.toInt - placeholder.offset.toInt
  /-- The size is shown as a number. -/
  sized : placeholder.sizeLabel = none
  emission : step.emission = .members (.blank ::
    ((context.reconcile placeholder.offset).items ++ [.member placeholder]))
  /-- A call line that is neither awaited as a terminator nor a directive is taken so. -/
  taken : context.suppressesNext = false → Directive.isDirective line.characters = false →
    LineKind.ofLine line.characters = .call →
      context.step line (some next) = record line .call step
  ahead : Call.writeTarget? next.characters = some (.literal reached)
  /-- In its own turn the next line declares its first member there, with nothing said before. -/
  follows : ∀ further leading rest,
    Item.ordinary ((record line .call step).context.step next further).report.items =
        leading :: rest →
      leading.offset = reached ∧
        ((record line .call step).context.reconcile leading.offset).Silent ∧
        ∃ opening others, (opening = [] ∨ opening = [Item.blank]) ∧
          ((record line .call step).context.step next further).report.items =
            opening ++ Item.member leading :: others

/-- A line that is no copy and declares members shows them below at most an empty line. -/
theorem exists_items_step {context : Context} {line : SourceLine} {next : Option SourceLine}
    {leading : Member} {rest : List Member} (other : LineKind.ofLine line.characters ≠ .copy)
    (declared : context.declaredBy line next = leading :: rest) :
    ∃ opening others, (opening = [] ∨ opening = [Item.blank]) ∧
      (context.step line next).report.items =
        opening ++ (context.reconcile leading.offset).items ++ Item.member leading :: others := by
  have steps := context.steps_step line next
  rw [declared] at steps
  generalize shape : leading :: rest = members at steps
  generalize context.step line next = step at steps ⊢
  cases steps with
  | suppressed marked log => cases shape
  | directive unmarked instructs log => cases shape
  | inert unmarked body silent log => cases shape
  | @read unmarked body reading _ reads log =>
      have opens := (context.read_declares reads).opening
      have silent := terminates_of_read reads other
      cases reading with
      | members opening declared =>
          obtain rfl : leading :: rest = declared := shape
          simp only [record, perform, placeAll, place, List.append_assoc, List.cons_append]
          exact ⟨opening, _, opens, rfl⟩
      | terminated member => cases silent
      | loop => cases shape
      | skipped reason => cases shape
      | unparsed => cases shape

theorem step_eq_record {context : Context} {line : SourceLine} {next : Option SourceLine}
    (unmarked : context.suppressesNext = false)
    (body : Directive.isDirective line.characters = false) {kind : LineKind}
    (kinds : LineKind.ofLine line.characters = kind) {step : EmissionStep}
    (emitted : context.emit kind line next = some step) :
    context.step line next = record line kind step := by
  have settled := settle_of_unmarked unmarked
  rw [settle] at settled
  simp only [Context.step, unmarked, body, Bool.false_eq_true, if_false, settled, stepBody, kinds,
    emitted]

theorem emit_call_eq {context : Context} {line : SourceLine} {next : Option SourceLine}
    {step : EmissionStep} {items : List Item} (emitted : context.emit .call line next = some step)
    (spoken : step.emission = .members items)
    (unknown : context.subroutines.find? line.characters = none) :
    step = { context.perform line (.members [.blank]
        [(Call.ofLine line).placeholder
          (Call.distance? (Call.ofLine line).target.offset next)]) with
      log := step.log } := by
  obtain ⟨⟨reading, log⟩, reads, rfl⟩ := Option.map_eq_some_iff.mp emitted
  simp only [read, Call.reading, unknown, Option.some.injEq, Prod.mk.injEq] at reads
  obtain ⟨taken, rfl⟩ := reads
  split at taken
  · rw [← taken] at spoken
    cases spoken
  · rw [← taken]

theorem exists_distance? {offset reached : Offset} {next : SourceLine}
    (target : Call.writeTarget? next.characters = some (.literal reached))
    (ahead : offset.toInt < reached.toInt)
    (near : reached.toInt - offset.toInt ≤ Offset.maximum) :
    ∃ size, Call.distance? offset (some next) = some size ∧
      (size.toNat : Int) = reached.toInt - offset.toInt := by
  refine ⟨Size.clamp (reached.toInt - offset.toInt).toNat, ?_, ?_⟩
  · have positive : 0 < reached.toInt - offset.toInt := by omega
    simp only [Call.distance?, Option.bind_some, target, positive, near, and_self, if_true]
  · rw [Size.toNat_clamp]
    simp only [Offset.maximum] at near
    simp only [Size.maximum]
    omega

/-- Behind some bytes that reach up to an offset nothing is said before a member at it. -/
theorem silent_behind {context : Context} {offset reached : Offset} {size : Size}
    (cursor : context.tally.cursor = ⟨offset, size⟩)
    (bytes : (size.toNat : Int) = reached.toInt - offset.toInt)
    (near : reached.toInt - offset.toInt ≤ Offset.maximum) :
    (context.reconcile reached).Silent := by
  have upper := reached.toInt_le_maximum
  have small : size.toNat < 0x8000000000000000 := by
    simp only [Offset.maximum] at near
    omega
  have limit : Cursor.limit ⟨offset, size⟩ = reached.toInt := by
    simp only [Cursor.limit]
    omega
  have stop := Cursor.toInt_stop_of_limit_le small (limit.trans_le upper)
  have ordered := Cursor.offset_le_limit ⟨offset, size⟩
  rw [limit] at stop ordered
  rw [← cursor] at stop ordered
  exact Tally.silent_of_meets _ ordered stop

/-- In any context, every assignment or call behind a call of an unknown subroutine tells where it
writes.  If that is a literal place further on, the bytes that stand for the call reach up to it,
and the members of the next line start there. -/
theorem exists_measures_of_emit {context : Context} {line next : SourceLine} {step : EmissionStep}
    {items : List Item} (emitted : context.emit .call line (some next) = some step)
    (spoken : step.emission = .members items)
    (unknown : context.subroutines.find? line.characters = none)
    (kind : LineKind.ofLine next.characters = .write ∨
      LineKind.ofLine next.characters = .call) :
    (∃ part, next.Written part) ∧
      ∀ part reached, next.Written part → Addend.find? part = some (.literal reached) →
        (Call.ofLine line).target.offset.toInt < reached.toInt →
        reached.toInt - (Call.ofLine line).target.offset.toInt ≤ Offset.maximum →
          ∃ placeholder, context.Measures line next step reached placeholder := by
  refine ⟨SourceLine.exists_written kind, fun part reached written found ahead near => ?_⟩
  have target := written.writeTarget?.trans found
  obtain ⟨size, measured, bytes⟩ := exists_distance? target ahead near
  have shape := emit_call_eq emitted spoken unknown
  rw [measured] at shape
  have emission : step.emission = .members (.blank ::
      ((context.reconcile (Call.ofLine line).target.offset).items ++
        [.member ((Call.ofLine line).placeholder (some size))])) := by
    rw [shape]
    simp only [perform, placeAll, place, List.append_nil]
    rfl
  have cursor : (record line .call step).context.tally.cursor =
      ⟨(Call.ofLine line).target.offset, size⟩ := by
    rw [context_record, shape]
    rfl
  refine ⟨(Call.ofLine line).placeholder (some size), rfl, rfl, bytes, rfl, emission,
    fun unmarked body calls => step_eq_record unmarked body calls emitted, target, ?_⟩
  intro further leading rest declared
  rw [ordinary_step] at declared
  have offset : leading.offset = reached := by
    have declares := declared
    unfold declaredBy at declares
    split at declares
    · cases declares
    · split at declares
      · next reading log reads =>
        rw [written.aims.offset_of_read reads declares, Addend.ofText, found]
        rfl
      · cases declares
  have other : LineKind.ofLine next.characters ≠ .copy := by
    rcases kind with writes | calls
    · simp [writes]
    · simp [calls]
  have silent := silent_behind cursor bytes near
  obtain ⟨opening, others, opens, text⟩ := exists_items_step other declared
  rw [offset, silent.items, List.append_nil] at text
  rw [offset]
  exact ⟨rfl, silent, opening, others, opens, text⟩

/-- A call at 8 that a write at 24 measures, behind members that end at 32. -/
theorem exists_measures_of_emit_sixteen :
    let context : Context :=
      { initial {} "Unknown" with tally := ⟨⟨Offset.wrap 24, Size.clamp 8⟩, Size.clamp 32⟩ }
    let line : SourceLine := { index := 0, text := "  sub_1(a1 + 8);" }
    let next : SourceLine := { index := 1, text := "  *((_QWORD *)v1 + 3) = v2;" }
    ∃ step items placeholder leading, context.emit .call line (some next) = some step ∧
      step.emission = .members items ∧ context.subroutines.find? line.characters = none ∧
      next.Written "  *((_QWORD *)v1 + 3)".toList ∧
      context.Measures line next step (Offset.wrap 24) placeholder ∧
      (placeholder.size.toNat : Int) = 16 ∧
      Item.ordinary ((record line .call step).context.step next none).report.items = [leading] ∧
      leading.offset.toInt = 24 := by
  intro context line next
  have shape : (context.emit .call line (some next)).any (fun step =>
      match step.emission with
      | .members _ => decide (((record line .call step).context.declaredBy next none).length = 1)
      | _ => false) = true := by decide +kernel
  have unknown : context.subroutines.find? line.characters = none := rfl
  have parts : Text.cut " = ".toList next.characters =
      some ("  *((_QWORD *)v1 + 3)".toList, "v2;".toList) := by decide +kernel
  have writes : LineKind.ofLine next.characters = .write := by decide +kernel
  have written : next.Written "  *((_QWORD *)v1 + 3)".toList := .assignment writes parts
  have found : Addend.find? "  *((_QWORD *)v1 + 3)".toList = some (.literal (Offset.wrap 24)) := by
    decide +kernel
  have start : (Call.ofLine line).target.offset = Offset.wrap 8 := by decide +kernel
  obtain ⟨step, emitted, single⟩ := (Option.any_eq_true _ _).mp shape
  split at single
  · next items spoken =>
    obtain ⟨leading, declared⟩ := List.length_eq_one_iff.mp (of_decide_eq_true single)
    rw [← ordinary_step] at declared
    obtain ⟨-, measured⟩ := exists_measures_of_emit emitted spoken unknown (.inl writes)
    obtain ⟨placeholder, measures⟩ :=
      measured _ _ written found (by rw [start]; decide) (by rw [start]; decide)
    have bytes := measures.bytes
    rw [measures.starts, start] at bytes
    have follows := (measures.follows none leading [] declared).1
    exact ⟨step, items, placeholder, leading, emitted, spoken, unknown, written, measures, bytes,
      declared, by rw [follows]; decide⟩
  · cases single

end Context

end LayoutRecovery
