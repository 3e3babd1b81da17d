import LayoutRecovery.Proofs.Addend.Separator
import LayoutRecovery.Proofs.Transcript.Measured

/-!
# Looks ahead

The look ahead at the line behind a call asks only whether a literal addend stands in it, on the
left side if the line is an assignment and anywhere otherwise.  Whether the line declares anything
is not asked, so that a call is measured by lines that declare nothing as well.  If the line does
declare members in its own turn, they start at that addend, except for some string copies.
-/

namespace LayoutRecovery

namespace SourceLine

/-- The part of a line that the look ahead reads: the left side of an assignment, and any other line
as a whole. -/
inductive Scans (line : SourceLine) : List Char → Prop
  | left {target source : List Char} (assigns : LineKind.isAssignment line.characters = true)
      (parts : Text.cut " = ".toList line.characters = some (target, source)) : Scans line target
  | whole (other : LineKind.isAssignment line.characters = false) : Scans line line.characters

/-- A string copy whose destination is not what the look ahead reads: the line is an assignment as
well, or no addend stands in the destination, or a scaled one stands behind it. -/
structure Strays (line : SourceLine) : Prop where
  copies : LineKind.ofLine line.characters = .copy
  apart : ∃ destination source size, line.characters.splitOn ',' = [destination, source, size] ∧
    (LineKind.isAssignment line.characters = true ∨ Addend.find? destination = none ∨
      Addend.scaled? (source ++ ',' :: size) ≠ none)

theorem exists_scans (line : SourceLine) : ∃ part, line.Scans part := by
  cases assigns : LineKind.isAssignment line.characters with
  | true =>
      obtain ⟨target, source, parts⟩ := LineKind.exists_cut_of_isAssignment assigns
      exact ⟨target, .left assigns parts⟩
  | false => exact ⟨line.characters, .whole assigns⟩

variable {line : SourceLine} {part other : List Char}

theorem Scans.writeTarget? (scans : line.Scans part) :
    Call.writeTarget? line.characters = Addend.find? part := by
  cases scans with
  | left assigns parts => simp only [Call.writeTarget?, parts, assigns, if_true]
  | whole other =>
      simp only [Call.writeTarget?, other]
      split <;> rfl

/-- A line that is no copy is read in its own turn at the part that the look ahead reads. -/
theorem Scans.eq_of_aims (scans : line.Scans part)
    (aims : line.Aims (LineKind.ofLine line.characters) other)
    (uncopied : LineKind.ofLine line.characters ≠ .copy) : part = other := by
  generalize kinds : LineKind.ofLine line.characters = kind at aims uncopied
  cases aims with
  | write parts =>
      have writes := LineKind.isAssignment_of_write kinds
      cases scans with
      | left assigns found => exact congrArg Prod.fst (Option.some.inj (found.symm.trans parts))
      | whole other => exact Bool.noConfusion (other.symm.trans writes)
  | copy pieces => exact absurd rfl uncopied
  | call =>
      have calls := LineKind.not_isAssignment_of_call kinds
      cases scans with
      | left assigns found => exact Bool.noConfusion (calls.symm.trans assigns)
      | whole other => rfl

/-- The whole of a string copy has the addend of its destination, if that has one and no scaled one
stands behind it. -/
theorem find?_of_pieces {destination source size : List Char}
    (pieces : line.characters.splitOn ',' = [destination, source, size]) {addend : Addend}
    (found : Addend.find? destination = some addend)
    (unscaled : Addend.scaled? (source ++ ',' :: size) = none) :
    Addend.find? line.characters = some addend := by
  have shape : line.characters = destination ++ ',' :: (source ++ ',' :: size) := by
    have joined : [','].intercalate (line.characters.splitOn ',') = line.characters :=
      List.intercalate_splitOn ','
    rw [← joined, pieces]
    simp [List.intercalate]
  rw [shape]
  exact Addend.find?_append_of_some found Addend.separates_comma unscaled

/-- What the look ahead finds is where the line is placed in its own turn, unless it is a copy that
strays. -/
theorem Scans.offset_of_aims (scans : line.Scans part) {reached : Offset}
    (found : Addend.find? part = some (.literal reached))
    (aims : line.Aims (LineKind.ofLine line.characters) other) :
    (Addend.ofText other).offset = reached ∨ line.Strays := by
  by_cases copies : LineKind.ofLine line.characters = .copy
  · rw [copies] at aims
    cases aims with
    | @copy _ source size pieces =>
        have strays := fun apart => Strays.mk copies ⟨other, source, size, pieces, apart⟩
        cases scans with
        | left assigns parts => exact .inr (strays (.inl assigns))
        | whole unassigned =>
            cases inside : Addend.find? other with
            | none => exact .inr (strays (.inr (.inl inside)))
            | some addend =>
                by_cases unscaled : Addend.scaled? (source ++ ',' :: size) = none
                · have same := (find?_of_pieces pieces inside unscaled).symm.trans found
                  left
                  rw [Addend.ofText, inside, same]
                  rfl
                · exact .inr (strays (.inr (.inr unscaled)))
  · left
    rw [← scans.eq_of_aims aims copies, Addend.ofText, found]
    rfl

end SourceLine

namespace Call

theorem distance?_eq_some_iff {next : SourceLine} {part : List Char} (scans : next.Scans part)
    {offset : Offset} {size : Size} :
    distance? offset (some next) = some size ↔
      ∃ reached, Addend.find? part = some (.literal reached) ∧ offset.toInt < reached.toInt ∧
        reached.toInt - offset.toInt ≤ Offset.maximum ∧
        (size.toNat : Int) = reached.toInt - offset.toInt := by
  constructor
  · intro measured
    simp only [distance?, Option.bind_some, scans.writeTarget?] at measured
    split at measured
    · next reached found =>
      split at measured
      · next near =>
        refine ⟨reached, found, by omega, near.2, ?_⟩
        rw [← Option.some.inj measured, Size.toNat_clamp]
        simp only [Offset.maximum, Size.maximum] at near ⊢
        omega
      · cases measured
    · cases measured
  · rintro ⟨reached, found, ahead, near, bytes⟩
    obtain ⟨measure, measured, counted⟩ :=
      Context.exists_distance? (scans.writeTarget?.trans found) ahead near
    have same : measure = size := Size.toNat_injective (by omega)
    rw [measured, same]

end Call

/-- A member that ends at the literal addend of a text, or whose size is unknown for want of one
behind the member. -/
structure Member.Reaches (member : Member) (part : List Char) : Prop where
  /-- The size is known exactly if a literal addend further on stands in the text. -/
  known : member.sizeLabel = none ↔ ∃ reached, Addend.find? part = some (.literal reached) ∧
    member.offset.toInt < reached.toInt ∧
    reached.toInt - member.offset.toInt ≤ Offset.maximum
  bytes : member.sizeLabel = none → ∀ reached, Addend.find? part = some (.literal reached) →
    (member.size.toNat : Int) = reached.toInt - member.offset.toInt
  unknown : member.sizeLabel ≠ none →
    member.sizeLabel = some "unknown" ∧ member.size.toNat = 0

theorem Call.reaches_placeholder (call : Call) {next : SourceLine} {part : List Char}
    (scans : next.Scans part) :
    (call.placeholder (distance? call.target.offset (some next))).Reaches part := by
  cases measured : distance? call.target.offset (some next) with
  | some size =>
      obtain ⟨reached, found, ahead, near, bytes⟩ := (distance?_eq_some_iff scans).mp measured
      refine ⟨iff_of_true rfl ⟨reached, found, ahead, near⟩, ?_, ?_⟩
      · intro sized other also
        cases found.symm.trans also
        exact bytes
      · intro unsized
        exact absurd rfl unsized
  | none =>
      have silent : ¬ ∃ reached, Addend.find? part = some (.literal reached) ∧
          call.target.offset.toInt < reached.toInt ∧
          reached.toInt - call.target.offset.toInt ≤ Offset.maximum := by
        rintro ⟨reached, found, ahead, near⟩
        obtain ⟨size, counted, -⟩ :=
          Context.exists_distance? (scans.writeTarget?.trans found) ahead near
        cases measured.symm.trans counted
      refine ⟨iff_of_false (by simp [placeholder]) silent, ?_, ?_⟩
      · intro sized
        cases sized
      · intro unsized
        exact ⟨rfl, rfl⟩

namespace Context

/-! ## The line in its own turn -/

variable {context : Context} {line : SourceLine} {next : Option SourceLine}

theorem exists_aims_of_read {reading : Reading} {log : List LogRecord}
    (reads : context.read (LineKind.ofLine line.characters) line next = some (reading, log))
    (filled : reading.declared ≠ []) :
    ∃ part, line.Aims (LineKind.ofLine line.characters) part := by
  generalize kinds : LineKind.ofLine line.characters = kind at reads
  cases kind with
  | inert => cases reads
  | loop =>
      cases reads
      exact absurd rfl filled
  | write =>
      obtain ⟨target, source, parts⟩ :=
        LineKind.exists_cut_of_isAssignment (LineKind.isAssignment_of_write kinds)
      exact ⟨target, .write parts⟩
  | copy =>
      simp only [read] at reads
      split at reads
      · next copy taken =>
        unfold Copy.read at taken
        split at taken
        · next destination source size pieces => exact ⟨destination, .copy pieces⟩
        · cases taken
      · cases reads
        exact absurd rfl filled
  | call => exact ⟨line.characters, .call⟩

/-- A line that declares members in its own turn starts where the look ahead found it to, unless it
is a copy that strays. -/
theorem offset_of_scans {part : List Char} (scans : line.Scans part) {reached : Offset}
    (found : Addend.find? part = some (.literal reached)) {leading : Member} {rest : List Member}
    (declares : Item.ordinary (context.step line next).report.items = leading :: rest) :
    leading.offset = reached ∨ line.Strays := by
  rw [ordinary_step] at declares
  unfold declaredBy at declares
  split at declares
  · cases declares
  · split at declares
    · next reading log reads =>
      obtain ⟨other, aims⟩ := exists_aims_of_read reads (by simp [declares])
      rw [aims.offset_of_read reads declares]
      exact scans.offset_of_aims found aims
    · cases declares

/-- The bytes that stand for a call, and what they have to do with the line behind it. -/
structure LooksAhead (context : Context) (line next : SourceLine) (step : EmissionStep)
    (part : List Char) (placeholder : Member) : Prop where
  declared : Item.ordinary step.emission.items = [placeholder]
  starts : placeholder.offset = (Call.ofLine line).target.offset
  reaches : placeholder.Reaches part
  /-- In its own turn the next line declares nothing, or it starts there, or it strays. -/
  follows : ∀ reached, Addend.find? part = some (.literal reached) → ∀ further leading rest,
    Item.ordinary ((record line .call step).context.step next further).report.items =
        leading :: rest →
      leading.offset = reached ∨ next.Strays

/-- In any context, the look ahead reads a part of whatever line stands behind a call of an unknown
subroutine, and the line measures the call exactly if a literal addend further on stands in that
part, whether or not the line declares anything.  If it does, its members start at the addend,
unless it is a string copy that strays. -/
theorem exists_looksAhead_of_emit {next : SourceLine} {step : EmissionStep} {items : List Item}
    (emitted : context.emit .call line (some next) = some step)
    (spoken : step.emission = .members items)
    (unknown : context.subroutines.find? line.characters = none) :
    (∃ part, next.Scans part) ∧
      ∃ placeholder, ∀ part, next.Scans part →
        context.LooksAhead line next step part placeholder := by
  have shape := emit_call_eq emitted spoken unknown
  have reaches := fun part (scans : next.Scans part) =>
    (Call.ofLine line).reaches_placeholder scans
  generalize Call.distance? (Call.ofLine line).target.offset (some next) = size at shape reaches
  have ordinary := ((Call.ofLine line).standsAt_placeholder size).ordinary
  have declared : Item.ordinary step.emission.items = [(Call.ofLine line).placeholder size] := by
    rw [shape]
    simp only [perform, Emission.items, Item.ordinary_append]
    exact context.ordinary_placeAll fun member inside => by
      rw [List.mem_singleton.mp inside, ordinary]
  refine ⟨next.exists_scans, _, fun part scans => ⟨declared, rfl, reaches part scans, ?_⟩⟩
  intro reached found further leading rest declares
  exact offset_of_scans scans found declares

/-- A call at 8 is measured by a return that mentions 64 and declares nothing. -/
theorem exists_looksAhead_of_emit_return :
    let context := initial {} "Unknown"
    let line : SourceLine := { index := 0, text := "  sub_1(v1 + 8);" }
    let next : SourceLine := { index := 1, text := "  return v1 + 64;" }
    ∃ step items placeholder, context.emit .call line (some next) = some step ∧
      step.emission = .members items ∧ context.subroutines.find? line.characters = none ∧
      context.LooksAhead line next step next.characters placeholder ∧
      placeholder.sizeLabel = none ∧ (placeholder.size.toNat : Int) = 56 ∧
      Item.ordinary ((record line .call step).context.step next none).report.items = [] := by
  intro context line next
  have shape : (context.emit .call line (some next)).any (fun step =>
      match step.emission with
      | .members _ => decide
          (Item.ordinary ((record line .call step).context.step next none).report.items = [])
      | _ => false) = true := by decide +kernel
  have unknown : context.subroutines.find? line.characters = none := rfl
  have scans : next.Scans next.characters := .whole (by decide +kernel)
  have found : Addend.find? next.characters = some (.literal (Offset.wrap 64)) := by
    decide +kernel
  have start : (Call.ofLine line).target.offset = Offset.wrap 8 := by decide +kernel
  obtain ⟨step, emitted, silent⟩ := (Option.any_eq_true _ _).mp shape
  split at silent
  · next items spoken =>
    obtain ⟨-, placeholder, looks⟩ := exists_looksAhead_of_emit emitted spoken unknown
    have ahead := looks _ scans
    have place := ahead.starts.trans start
    have sized : placeholder.sizeLabel = none :=
      ahead.reaches.known.mpr ⟨_, found, by rw [place]; decide, by rw [place]; decide⟩
    have bytes := ahead.reaches.bytes sized _ found
    rw [place] at bytes
    exact ⟨step, items, placeholder, emitted, spoken, unknown, ahead, sized, bytes,
      of_decide_eq_true silent⟩
  · cases silent

/-- A call at 8 is measured up to 64 by a return, by an assignment to a variable, by the end of a
loop and by a directive, none of which declares anything, and by the text of a string that is copied
to the start. -/
theorem measured_by_mention :
    let context := initial {} "Unknown"
    let line : SourceLine := { index := 0, text := "  sub_1(v1 + 8);" }
    let measured := fun (text : String) =>
      let next : SourceLine := { index := 1, text }
      (context.emit .call line (some next)).map fun step =>
        ((Item.ordinary step.emission.items).map fun placeholder =>
            (placeholder.offset.toInt, placeholder.sizeLabel, placeholder.size.toNat),
          (Item.ordinary ((record line .call step).context.step next none).report.items).map
            fun member => member.offset.toInt)
    (LineKind.ofLine line.characters = .call ∧
        context.subroutines.find? line.characters = none) ∧
      measured "  return v1 + 64;" = some ([(8, none, 56)], []) ∧
      measured "  v3 = v1 + 64;" = some ([(8, none, 56)], []) ∧
      measured "  while ( v1 + 64 );" = some ([(8, none, 56)], []) ∧
      measured "#class v1+64" = some ([(8, none, 56)], []) ∧
      measured "  strncpy(v2, \"v1 + 64\", 0x10);" = some ([(8, none, 56)], [0]) :=
  ⟨by decide +kernel, by decide +kernel, by decide +kernel, by decide +kernel, by decide +kernel,
    by decide +kernel⟩

end Context

end LayoutRecovery
