import LayoutRecovery.Proofs.Placement.Declared
import LayoutRecovery.Proofs.Reconciliation.Run
import LayoutRecovery.Transcript

/-!
# What a body line changes

A line of the body acts on the context through the members that it declares: they run through the
reconciliation one after the other, and apart from the tally a line changes only what the next line
has to know about it.  The pieces of the class body that say where bytes lie are those of the
members, whatever else the line adds.
-/

namespace LayoutRecovery

/-- A member as it arrives at the reconciliation. -/
def Member.arrival (hints : Hints) (member : Member) : Arrival where
  offset := member.offset
  size := member.size
  hints := hints

namespace Item

/-- Whether a piece says where bytes lie: it declares a member or reports a conflict. -/
def placesBytes : Item → Bool
  | member _ => true
  | remark (.conflict _) => true
  | _ => false

/-- The pieces that say where bytes lie, in order. -/
def placements (items : List Item) : List Item :=
  items.filter placesBytes

@[simp]
theorem placements_append (left right : List Item) :
    placements (left ++ right) = placements left ++ placements right :=
  List.filter_append ..

theorem members_placements (items : List Item) : members (placements items) = members items := by
  induction items with
  | nil => rfl
  | cons item rest ih =>
      cases item with
      | blank => exact ih
      | member declared => exact congrArg (declared :: ·) ih
      | remark comment =>
          cases comment with
          | conflict => exact ih
          | _ => exact ih

theorem mem_placements_conflict {items : List Item} {conflict : Conflict} :
    remark (.conflict conflict) ∈ placements items ↔ remark (.conflict conflict) ∈ items := by
  simp [placements, placesBytes]

@[simp]
theorem placements_nil : placements [] = [] := rfl

@[simp]
theorem placements_accumulated (shown : Prop) [Decidable shown] (size : Size) :
    placements (if shown then [remark (.accumulated size)] else []) = [] := by
  split <;> rfl

end Item

/-- The pieces of the class body that an emission holds. -/
def Emission.items : Emission → List Item
  | members items => items
  | remark items => items
  | skipped _ => []
  | unparsed => []

/-- Whether a reading marks the next line as a string terminator. -/
def Reading.terminates : Reading → Bool
  | terminated _ => true
  | _ => false

/-- A reading whose opening says nothing about bytes and whose members do more than fill space. -/
structure Reading.Plain (reading : Reading) : Prop where
  /-- Nothing above the members says where bytes lie. -/
  opening : Item.placements reading.opening = []
  /-- None of the members only fills space. -/
  declared : ∀ member ∈ reading.declared, member.ignored = false

/-- Contexts for which the directives have set the same. -/
structure Context.SameSettings (before after : Context) : Prop where
  subroutines : after.subroutines = before.subroutines
  heuristics : after.heuristics = before.heuristics
  declaredSize : after.declaredSize = before.declaredSize
  className : after.className = before.className
  memberStem : after.memberStem = before.memberStem

namespace Context

theorem SameSettings.refl (context : Context) : context.SameSettings context :=
  ⟨rfl, rfl, rfl, rfl, rfl⟩

theorem SameSettings.trans {first second third : Context} (earlier : first.SameSettings second)
    (later : second.SameSettings third) : first.SameSettings third where
  subroutines := later.subroutines.trans earlier.subroutines
  heuristics := later.heuristics.trans earlier.heuristics
  declaredSize := later.declaredSize.trans earlier.declaredSize
  className := later.className.trans earlier.className
  memberStem := later.memberStem.trans earlier.memberStem

theorem read_plain {context : Context} {kind : LineKind} {line : SourceLine}
    {next : Option SourceLine} {reading : Reading} {log : List LogRecord}
    (found : context.read kind line next = some (reading, log)) : reading.Plain := by
  have declares := context.read_declares found
  constructor
  · rcases declares.opening with nothing | blank
    · rw [nothing]
      rfl
    · rw [blank]
      rfl
  · intro member inside
    obtain ⟨stem, addend, bytes, stands, -⟩ := declares.members member inside
    exact stands.ordinary

/-! ## One line -/

theorem context_placeAll (context : Context) (declared : List Member) :
    (context.placeAll declared).context =
      { context with
        tally := context.tally.run (declared.map (Member.arrival context.hints)) } := by
  induction declared generalizing context with
  | nil => rfl
  | cons member rest ih => exact ih _

theorem tally_placeAll (context : Context) (declared : List Member) :
    (context.placeAll declared).context.tally =
      context.tally.run (declared.map (Member.arrival context.hints)) := by
  rw [context_placeAll]

/-- The context with the mark on the next line taken away. -/
def settle (context : Context) : Context :=
  { context with suppressesNext := false }

/-- The members that a line declares. -/
def declaredBy (context : Context) (line : SourceLine) (next : Option SourceLine) : List Member :=
  if context.suppressesNext || Directive.isDirective line.characters then []
  else
    match context.read (LineKind.ofLine line.characters) line next with
    | some (reading, _) => reading.declared
    | none => []

end Context

/-- A step that declares members one after the other, as far as bytes are concerned. -/
structure LineStep.Places (step : LineStep) (context : Context) (declared : List Member) :
    Prop where
  /-- The pieces that say where bytes lie are those of the members. -/
  items : Item.placements step.report.items = Item.placements (context.placeAll declared).items
  /-- The members run through the reconciliation. -/
  tally : step.context.tally = context.tally.run (declared.map (Member.arrival context.hints))
  /-- What the directives have set stays. -/
  settings : context.SameSettings step.context

namespace SourceLine

@[simp]
theorem placements_copyItems (line : SourceLine) : Item.placements line.copyItems = [] := by
  unfold copyItems
  split <;> rfl

end SourceLine

namespace Context

theorem passOver_places (context : Context) (line : SourceLine) (log : List LogRecord) :
    (context.passOver line log).Places context [] where
  items := line.placements_copyItems
  tally := rfl
  settings := .refl context

/-- What surrounds the emission of a line says nothing about bytes. -/
theorem placements_record (line : SourceLine) (kind : LineKind) (step : EmissionStep) :
    Item.placements (record line kind step).report.items =
      Item.placements step.emission.items := by
  unfold record
  cases emission : step.emission with
  | members items => simp [Emission.items]
  | remark items => simp [Emission.items]
  | skipped reason => simp [Emission.items, passOver]
  | unparsed => simp [Emission.items, passOver]

theorem context_record (line : SourceLine) (kind : LineKind) (step : EmissionStep) :
    (record line kind step).context =
      { step.context with
        previousLine :=
          if (record line kind step).report.declares then some line.text
          else step.context.previousLine } := by
  unfold record
  cases step.emission <;> rfl

/-- The members of a plain reading are placed one after the other. -/
theorem perform_places {reading : Reading} (plain : reading.Plain) (context : Context)
    (line : SourceLine) :
    Item.placements (context.perform line reading).emission.items =
      Item.placements (context.placeAll reading.declared).items := by
  cases reading with
  | members opening declared =>
      have silent : Item.placements opening = [] := plain.opening
      simp [perform, Emission.items, silent, Reading.declared]
  | terminated declared => simp [perform, Emission.items, Reading.declared, placeAll]
  | loop => rfl
  | skipped reason => rfl
  | unparsed => rfl

theorem context_perform (context : Context) (line : SourceLine) (reading : Reading) :
    (context.perform line reading).context =
      { (context.placeAll reading.declared).context with
        suppressesNext := reading.terminates || context.suppressesNext } := by
  cases reading with
  | members opening declared =>
      simp only [perform, Reading.declared, Reading.terminates, Bool.false_or, context_placeAll]
  | terminated declared => rfl
  | loop => rfl
  | skipped reason => rfl
  | unparsed => rfl

/-- A line that is carried out declares the members of its reading. -/
theorem record_places {reading : Reading} (plain : reading.Plain) (context : Context)
    (line : SourceLine) (kind : LineKind) (log : List LogRecord) :
    (record line kind { context.perform line reading with log }).Places context
      reading.declared where
  items := (placements_record ..).trans (perform_places plain context line)
  tally := by simp only [context_record, context_perform, context_placeAll]
  settings := by
    rw [context_record, context_perform, context_placeAll]
    exact ⟨rfl, rfl, rfl, rfl, rfl⟩

/-- What the step over a line can be, with the members that the line declares. -/
inductive Steps (context : Context) (line : SourceLine) (next : Option SourceLine) :
    List Member → LineStep → Prop
  | suppressed (marked : context.suppressesNext = true) (log : List LogRecord) :
      Steps context line next [] (context.settle.passOver line log)
  | directive (unmarked : context.suppressesNext = false)
      (instructs : Directive.isDirective line.characters = true) (log : List LogRecord) :
      Steps context line next [] (context.passOver line log)
  | inert (unmarked : context.suppressesNext = false)
      (body : Directive.isDirective line.characters = false)
      (silent : context.read (LineKind.ofLine line.characters) line next = none)
      (log : List LogRecord) : Steps context line next [] (context.passOver line log)
  | read (unmarked : context.suppressesNext = false)
      (body : Directive.isDirective line.characters = false) {reading : Reading}
      {found : List LogRecord}
      (reads : context.read (LineKind.ofLine line.characters) line next = some (reading, found))
      (log : List LogRecord) :
      Steps context line next reading.declared
        (record line (LineKind.ofLine line.characters) { context.perform line reading with log })

theorem settle_of_unmarked {context : Context} (unmarked : context.suppressesNext = false) :
    context.settle = context := by
  rw [settle, ← unmarked]

theorem steps_step (context : Context) (line : SourceLine) (next : Option SourceLine) :
    context.Steps line next (context.declaredBy line next) (context.step line next) := by
  unfold step declaredBy
  cases marked : context.suppressesNext with
  | true => exact .suppressed marked _
  | false =>
      have settled := settle_of_unmarked marked
      rw [settle] at settled
      rw [settled]
      cases directive : Directive.isDirective line.characters with
      | true => exact .directive marked directive _
      | false =>
          simp only [Bool.or_self, Bool.false_eq_true, if_false, stepBody, emit]
          cases reads : context.read (LineKind.ofLine line.characters) line next with
          | none => exact .inert marked directive reads _
          | some outcome => exact .read marked directive reads _

/-- A line acts on the tally and on the members through the members that it declares. -/
theorem step_places (context : Context) (line : SourceLine) (next : Option SourceLine) :
    (context.step line next).Places context.settle (context.declaredBy line next) := by
  have steps := context.steps_step line next
  generalize context.step line next = step at steps ⊢
  generalize context.declaredBy line next = declared at steps ⊢
  cases steps with
  | suppressed marked log => exact passOver_places _ line log
  | directive unmarked instructs log =>
      rw [settle_of_unmarked unmarked]
      exact passOver_places context line log
  | inert unmarked body silent log =>
      rw [settle_of_unmarked unmarked]
      exact passOver_places context line log
  | read unmarked body reads log =>
      rw [settle_of_unmarked unmarked]
      exact record_places (read_plain reads) context line _ log

/-- The members of a line, paddings included, are those that placing what it declares leaves. -/
theorem members_step (context : Context) (line : SourceLine) (next : Option SourceLine) :
    Item.members (context.step line next).report.items =
      Item.members (context.settle.placeAll (context.declaredBy line next)).items := by
  rw [← Item.members_placements, (context.step_places line next).items, Item.members_placements]

theorem exists_standsAt_of_declaredBy {context : Context} {line : SourceLine}
    {next : Option SourceLine} {member : Member} (found : member ∈ context.declaredBy line next) :
    ∃ stem addend bytes, member.StandsAt stem addend bytes ∧ context.Grants stem bytes := by
  unfold declaredBy at found
  split at found
  · cases found
  · split at found
    · next reading log reads => exact (context.read_declares reads).members member found
    · cases found

theorem declaredBy_ordinary {context : Context} {line : SourceLine} {next : Option SourceLine}
    {member : Member} (found : member ∈ context.declaredBy line next) :
    member.ignored = false := by
  obtain ⟨stem, addend, bytes, stands, -⟩ := exists_standsAt_of_declaredBy found
  exact stands.ordinary

/-! ## What a line leaves behind -/

/-- A line counts as parsed exactly if it declares members. -/
theorem declares_step_iff (context : Context) (line : SourceLine) (next : Option SourceLine) :
    (context.step line next).report.declares = true ↔ context.declaredBy line next ≠ [] := by
  have steps := context.steps_step line next
  generalize context.step line next = step at steps ⊢
  generalize context.declaredBy line next = declared at steps ⊢
  cases steps with
  | suppressed marked log => simp [passOver]
  | directive unmarked instructs log => simp [passOver]
  | inert unmarked body silent log => simp [passOver]
  | @read unmarked body reading _ reads log =>
      have filled := (context.read_declares reads).filled
      cases reading with
      | members opening declared =>
          simpa [record, perform, Reading.declared] using filled opening declared rfl
      | terminated member => simp [record, perform, Reading.declared]
      | loop => simp [record, perform, Reading.declared]
      | skipped reason => simp [record, perform, Reading.declared, passOver]
      | unparsed => simp [record, perform, Reading.declared, passOver]

theorem previousLine_step (context : Context) (line : SourceLine) (next : Option SourceLine) :
    (context.step line next).context.previousLine =
      if context.declaredBy line next = [] then context.previousLine else some line.text := by
  have declares := context.declares_step_iff line next
  have steps := context.steps_step line next
  generalize context.step line next = step at steps declares ⊢
  generalize context.declaredBy line next = declared at steps declares ⊢
  cases steps with
  | suppressed marked log => rfl
  | directive unmarked instructs log => rfl
  | inert unmarked body silent log => rfl
  | @read unmarked body reading _ reads log =>
      have kept : (context.perform line reading).context.previousLine = context.previousLine := by
        rw [context_perform, context_placeAll]
      rw [context_record]
      by_cases empty : reading.declared = []
      · rw [if_pos empty, if_neg (fun spoken => declares.mp spoken empty)]
        exact kept
      · rw [if_neg empty, if_pos (declares.mpr empty)]

end Context

end LayoutRecovery
