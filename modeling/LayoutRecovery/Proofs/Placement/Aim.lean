import LayoutRecovery.Proofs.Placement.Agreement

/-!
# Where a line is placed

The part of a line that tells where it puts its first member: the left side of an assignment, the
first argument of a string copy, and the whole line of a call.
-/

namespace LayoutRecovery

/-- The part of a line, taken as one of some kind, at whose addend its members start. -/
inductive SourceLine.Aims (line : SourceLine) : LineKind → List Char → Prop
  | write {target source : List Char}
      (parts : Text.cut " = ".toList line.characters = some (target, source)) :
      Aims line .write target
  | copy {destination source size : List Char}
      (pieces : line.characters.splitOn ',' = [destination, source, size]) :
      Aims line .copy destination
  | call : Aims line .call line.characters

namespace Context

variable {context : Context} {kind : LineKind} {line : SourceLine} {next : Option SourceLine}

theorem exists_read_of_emit {step : EmissionStep} {items : List Item}
    (emitted : context.emit kind line next = some step) (spoken : step.emission = .members items) :
    ∃ reading log, context.read kind line next = some (reading, log) ∧
      Item.ordinary items = reading.declared ∧ reading.declared ≠ [] := by
  obtain ⟨⟨reading, log⟩, reads, rfl⟩ := Option.map_eq_some_iff.mp emitted
  refine ⟨reading, log, reads, ?_⟩
  have declares := context.read_declares reads
  have matter := (read_plain reads).declared
  cases reading with
  | members opening declared =>
      have silent : Item.ordinary opening = [] := by
        have opens : opening = [] ∨ opening = [.blank] := declares.opening
        rcases opens with rfl | rfl <;> rfl
      have shape : opening ++ (context.placeAll declared).items = items :=
        Emission.members.inj spoken
      refine ⟨?_, declares.filled opening declared rfl⟩
      rw [← shape, Item.ordinary_append, silent, List.nil_append]
      exact context.ordinary_placeAll matter
  | terminated declared =>
      have shape : (context.place declared).items = items := Emission.members.inj spoken
      have placed := context.ordinary_placeAll matter
      simp only [Reading.declared, placeAll, List.append_nil] at placed
      exact ⟨by rw [← shape, placed]; rfl, List.cons_ne_nil declared []⟩
  | loop => cases spoken
  | skipped reason => cases spoken
  | unparsed => cases spoken

variable (context) in
theorem exists_emit_of_read {opening : List Item} {declared : List Member} {log : List LogRecord}
    (reads : context.read kind line next = some (.members opening declared, log)) :
    ∃ step items, context.emit kind line next = some step ∧ step.emission = .members items ∧
      Item.ordinary items = declared := by
  obtain ⟨step, emitted⟩ : ∃ step, context.emit kind line next = some step :=
    ⟨_, Option.map_eq_some_iff.mpr ⟨_, reads, rfl⟩⟩
  obtain ⟨_, found, rfl⟩ := Option.map_eq_some_iff.mp emitted
  obtain rfl := Option.some.inj (reads.symm.trans found)
  obtain ⟨_, _, again, ordinary, -⟩ := exists_read_of_emit emitted rfl
  cases reads.symm.trans again
  exact ⟨_, _, emitted, rfl, ordinary⟩

variable (context) in
theorem exists_emit_write {assignment : Assignment}
    (parts : Assignment.read? line.characters = some assignment) (next : Option SourceLine) :
    ∃ step items, context.emit .write line next = some step ∧ step.emission = .members items ∧
      Item.ordinary items = assignment.members context.memberStem := by
  have reads : context.read .write line next =
      some (.members [] (assignment.members context.memberStem), assignment.log) := by
    simp only [read, parts]
  exact context.exists_emit_of_read reads

/-- A write that emits members has the parts of an assignment, and emits the members of it. -/
theorem exists_assignment_of_emit {step : EmissionStep} {items : List Item}
    (emitted : context.emit .write line next = some step)
    (spoken : step.emission = .members items) :
    ∃ assignment, Assignment.read? line.characters = some assignment ∧
      Item.ordinary items = assignment.members context.memberStem := by
  obtain ⟨reading, log, reads, ordinary, filled⟩ := exists_read_of_emit emitted spoken
  simp only [read] at reads
  split at reads
  · next assignment parts =>
    cases reads
    simp only [Reading.declared] at ordinary
    exact ⟨assignment, parts, ordinary⟩
  · cases reads
    exact absurd rfl filled

end Context

namespace SourceLine

variable {line : SourceLine} {kind : LineKind} {part : List Char} {context : Context}
  {next : Option SourceLine}

/-- The first member of a line starts at the addend of the part that tells where. -/
theorem Aims.offset_of_read (aims : line.Aims kind part) {reading : Reading}
    {log : List LogRecord} (reads : context.read kind line next = some (reading, log))
    {leading : Member} {rest : List Member} (declared : reading.declared = leading :: rest) :
    leading.offset = (Addend.ofText part).offset := by
  cases aims with
  | write parts =>
      simp only [Context.read] at reads
      split at reads
      · next assignment read =>
        cases reads
        have place : assignment.target = Addend.ofText part := by
          simp only [Assignment.read?, parts, Option.bind_some] at read
          split at read
          · cases read
          · rw [← Option.some.inj read]
        have covers := assignment.covers_members context.memberStem
        simp only [Reading.declared] at declared
        rw [declared] at covers
        rw [← place]
        cases covers with
        | whole small stands => exact stands.offset
        | halves first second => exact first.offset
      · cases reads
        cases declared
  | copy pieces =>
      simp only [Context.read, Copy.read, pieces] at reads
      cases reads
      obtain rfl : _ = leading := by
        simp only [Copy.reading] at declared
        split at declared <;> exact (List.cons.inj declared).1
      exact (Copy.standsAt_member _ _).offset
  | call =>
      simp only [Context.read, Option.some.injEq, Prod.mk.injEq] at reads
      obtain ⟨rfl, -⟩ := reads
      simp only [Call.reading] at declared
      split at declared
      · cases declared
      · split at declared
        · rw [← (List.cons.inj declared).1]
          rfl
        · rw [← (List.cons.inj declared).1]
          rfl

theorem Aims.exists_of_emit (aims : line.Aims kind part) {step : EmissionStep} {items : List Item}
    (emitted : context.emit kind line next = some step) (spoken : step.emission = .members items) :
    ∃ leading rest, Item.ordinary items = leading :: rest ∧
      leading.offset = (Addend.ofText part).offset := by
  obtain ⟨reading, log, reads, ordinary, filled⟩ := Context.exists_read_of_emit emitted spoken
  obtain ⟨leading, rest, declared⟩ := List.exists_cons_of_ne_nil filled
  exact ⟨leading, rest, ordinary.trans declared, aims.offset_of_read reads declared⟩

/-- A line that can be read for its place emits something, and a copy emits its member. -/
theorem Aims.exists_emit (aims : line.Aims kind part) (context : Context)
    (next : Option SourceLine) :
    ∃ step, context.emit kind line next = some step ∧
      (kind = .copy → ∃ items, step.emission = .members items) := by
  have spoken : kind ≠ .inert := by
    rintro rfl
    cases aims
  cases reads : context.read kind line next with
  | none => exact absurd ((context.read_eq_none_iff kind line next).mp reads) spoken
  | some found =>
      obtain ⟨reading, log⟩ := found
      refine ⟨_, by rw [Context.emit, reads, Option.map_some], fun copies => ?_⟩
      subst copies
      obtain @⟨-⟩ | @⟨destination, source, size, pieces⟩ := aims
      simp only [Context.read, Copy.read, pieces] at reads
      cases reads
      simp only [Copy.reading]
      split <;> exact ⟨_, rfl⟩

end SourceLine

end LayoutRecovery
