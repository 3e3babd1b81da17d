import LayoutRecovery.Proofs.Placement.Frame

/-!
# Emissions and the reconciliation agree

A line that declares members sends each of them through the reconciliation once, in the order of the
text, and what that turns up stands directly above the member.  A line that declares none leaves the
context as it is.  Nothing but the tally and the mark on the next line ever changes, and only string
copies set the mark.
-/

namespace LayoutRecovery

/-! ## What is written for members -/

namespace Item

/-- The members of some pieces that do more than fill space, in order. -/
def ordinary (items : List Item) : List Member :=
  (members items).filter fun member => !member.ignored

@[simp]
theorem ordinary_append (left right : List Item) :
    ordinary (left ++ right) = ordinary left ++ ordinary right := by
  simp [ordinary]

theorem ordinary_member {declared : Member} (matters : declared.ignored = false) :
    ordinary [member declared] = [declared] := by
  simp [ordinary, members, member?, matters]

end Item

namespace Reconciliation

/-- Members in the order of the text, each directly below what was found before it. -/
def annotate : List Reconciliation → List Member → List Item
  | report :: reports, member :: members =>
      report.items ++ Item.member member :: annotate reports members
  | _, _ => []

end Reconciliation

namespace Tally

theorem members_items_reconcile (tally : Tally) (hints : Hints) (offset : Offset) :
    Item.members (tally.reconcile hints offset).items =
      (tally.reconcile hints offset).padding.toList := by
  rw [Reconciliation.items, Item.members_append]
  cases (tally.reconcile hints offset).conflict <;>
    cases (tally.reconcile hints offset).padding <;> rfl

/-- A member that is found before another one fills the gap between them. -/
theorem eq_padding_of_mem_reconcile {tally : Tally} {hints : Hints} {offset : Offset}
    {member : Member} (inside : member ∈ Item.members (tally.reconcile hints offset).items) :
    member = tally.padding (tally.cursor.gapTo offset).toNat hints.afterString := by
  rw [members_items_reconcile, Option.mem_toList] at inside
  simp only [reconcile] at inside
  split at inside
  · cases inside
  · exact (Option.some.inj inside).symm

theorem ordinary_reconcile (tally : Tally) (hints : Hints) (offset : Offset) :
    Item.ordinary (tally.reconcile hints offset).items = [] := by
  refine List.filter_eq_nil_iff.mpr fun member inside => ?_
  rw [eq_padding_of_mem_reconcile inside]
  simp [padding]

theorem cursor_run {tally : Tally} {hints : Hints} {members : List Member} {last : Member}
    (ends : members.getLast? = some last) :
    (tally.run (members.map (Member.arrival hints))).cursor = ⟨last.offset, last.size⟩ := by
  obtain ⟨front, rfl⟩ := List.getLast?_eq_some_iff.mp ends
  rw [List.map_append, run_append]
  rfl

/-- Pieces whose members all went through the reconciliation, from one tally to another. -/
structure Reconciles (before : Tally) (hints : Hints) (items : List Item) (after : Tally) :
    Prop where
  /-- Below at most one empty line, every member stands directly below what was found before it. -/
  text : ∃ opening, (opening = [] ∨ opening = [Item.blank]) ∧
    items = opening ++ Reconciliation.annotate
      (before.reports ((Item.ordinary items).map (Member.arrival hints))) (Item.ordinary items)
  /-- Every member arrived once, in order, with its own offset and size. -/
  tally : after = before.run ((Item.ordinary items).map (Member.arrival hints))
  cursor : ∃ last, (Item.ordinary items).getLast? = some last ∧
    after.cursor = ⟨last.offset, last.size⟩

end Tally

namespace Context

theorem items_placeAll (context : Context) (declared : List Member) :
    (context.placeAll declared).items =
      Reconciliation.annotate
        (context.tally.reports (declared.map (Member.arrival context.hints))) declared := by
  induction declared generalizing context with
  | nil => rfl
  | cons member rest ih =>
      have others := ih (context.moveTo member.offset member.size)
      simp only [placeAll, place, List.append_assoc, List.singleton_append]
      rw [others]
      rfl

theorem ordinary_placeAll (context : Context) {declared : List Member}
    (matter : ∀ member ∈ declared, member.ignored = false) :
    Item.ordinary (context.placeAll declared).items = declared := by
  induction declared generalizing context with
  | nil => rfl
  | cons member rest ih =>
      have first := Item.ordinary_member (matter member (by simp))
      have others := ih (context.place member).context fun later inside =>
        matter later (by simp [inside])
      rw [placeAll, Item.ordinary_append, others, place, Item.ordinary_append, first]
      simp only [reconcile, Tally.ordinary_reconcile]
      rfl

/-- Members that are placed below at most an empty line have gone through the reconciliation. -/
theorem reconciles_placeAll (context : Context) {opening : List Item} {declared : List Member}
    (silent : opening = [] ∨ opening = [Item.blank]) (filled : declared ≠ [])
    (matter : ∀ member ∈ declared, member.ignored = false) :
    context.tally.Reconciles context.hints (opening ++ (context.placeAll declared).items)
      (context.placeAll declared).context.tally := by
  have nothing : Item.ordinary opening = [] := by
    rcases silent with rfl | rfl <;> rfl
  have same : Item.ordinary (opening ++ (context.placeAll declared).items) = declared := by
    rw [Item.ordinary_append, nothing, List.nil_append, context.ordinary_placeAll matter]
  have ends := List.getLast?_eq_some_getLast filled
  constructor
  · refine ⟨opening, silent, ?_⟩
    rw [same, context.items_placeAll]
  · rw [same, context.tally_placeAll]
  · rw [same, context.tally_placeAll]
    exact ⟨_, ends, Tally.cursor_run ends⟩

/-! ## What a line leaves alone -/

/-- What a line of some kind leaves alone whatever it emits. -/
structure Frames (before : Context) (kind : LineKind) (after : Context) : Prop where
  settings : before.SameSettings after
  previousLine : after.previousLine = before.previousLine
  suppressesNext : kind ≠ .copy → after.suppressesNext = before.suppressesNext

theorem frames_perform {context : Context} {kind : LineKind} {reading : Reading}
    (unmarked : kind ≠ .copy → reading.terminates = false) (line : SourceLine) :
    context.Frames kind (context.perform line reading).context := by
  rw [context_perform, context_placeAll]
  exact ⟨⟨rfl, rfl, rfl, rfl, rfl⟩, rfl, fun other => by rw [unmarked other, Bool.false_or]⟩

theorem terminates_of_read {context : Context} {kind : LineKind} {line : SourceLine}
    {next : Option SourceLine} {reading : Reading} {log : List LogRecord}
    (found : context.read kind line next = some (reading, log)) (other : kind ≠ .copy) :
    reading.terminates = false := by
  cases kind with
  | inert => cases found
  | loop =>
      cases found
      rfl
  | write =>
      simp only [read] at found
      split at found <;>
        · cases found
          rfl
  | copy => exact absurd rfl other
  | call =>
      simp only [read, Call.reading] at found
      cases found
      split
      · rfl
      · split <;> rfl

theorem read_eq_none_iff (context : Context) (kind : LineKind) (line : SourceLine)
    (next : Option SourceLine) : context.read kind line next = none ↔ kind = .inert := by
  cases kind with
  | inert => simp [read]
  | loop => simp [read]
  | write =>
      simp only [read]
      split <;> simp
  | copy =>
      simp only [read]
      split <;> simp
  | call => simp [read]

/-- A reading that declares members is carried out by placing them, and any other changes
nothing. -/
theorem reconciles_perform {context : Context} {reading : Reading}
    (declares : reading.Declares context) (line : SourceLine) :
    (∀ items, (context.perform line reading).emission = .members items →
      context.tally.Reconciles context.hints items (context.perform line reading).context.tally) ∧
    ((∀ items, (context.perform line reading).emission ≠ .members items) →
      (context.perform line reading).context = context) := by
  have matter : ∀ member ∈ reading.declared, member.ignored = false := by
    intro member inside
    obtain ⟨stem, addend, bytes, stands, -⟩ := declares.members member inside
    exact stands.ordinary
  cases reading with
  | members opening declared =>
      have filled := declares.filled opening declared rfl
      refine ⟨fun items emitted => ?_, fun silent => absurd rfl (silent _)⟩
      rw [← Emission.members.inj emitted]
      exact context.reconciles_placeAll declares.opening filled matter
  | terminated declared =>
      refine ⟨fun items emitted => ?_, fun silent => absurd rfl (silent _)⟩
      have placed := context.reconciles_placeAll (.inl rfl) (List.cons_ne_nil declared []) matter
      rw [← Emission.members.inj emitted]
      simp only [placeAll, List.nil_append, List.append_nil] at placed
      exact placed
  | loop =>
      refine ⟨fun items emitted => ?_, fun _ => rfl⟩
      cases emitted
  | skipped reason =>
      refine ⟨fun items emitted => ?_, fun _ => rfl⟩
      cases emitted
  | unparsed =>
      refine ⟨fun items emitted => ?_, fun _ => rfl⟩
      cases emitted

/-- Every kind of line but the inert one emits something.  A line that emits members sends each of
them through the reconciliation once; one that emits none leaves the context as it is; and apart
from the tally, only a string copy changes anything, namely the mark on the next line. -/
theorem emit_reconciles (context : Context) (kind : LineKind) (line : SourceLine)
    (next : Option SourceLine) :
    (context.emit kind line next = none ↔ kind = .inert) ∧
      ∀ step, context.emit kind line next = some step →
        (∀ items, step.emission = .members items →
          context.tally.Reconciles context.hints items step.context.tally) ∧
        ((∀ items, step.emission ≠ .members items) → step.context = context) ∧
        context.Frames kind step.context := by
  constructor
  · rw [emit, Option.map_eq_none_iff]
    exact context.read_eq_none_iff kind line next
  · intro step emitted
    obtain ⟨⟨reading, log⟩, found, rfl⟩ := Option.map_eq_some_iff.mp emitted
    obtain ⟨reconciles, unchanged⟩ := reconciles_perform (context.read_declares found) line
    exact ⟨reconciles, unchanged, frames_perform (terminates_of_read found) line⟩

/-- Two packed halves behind a gap arrive at 4 and at 8. -/
theorem emit_reconciles_halves :
    let context := initial {} "Unknown"
    let line : SourceLine := { index := 0, text := "  *(_QWORD *)(a1 + 4) = 0x40000000i64;" }
    ∃ step items, context.emit .write line none = some step ∧ step.emission = .members items ∧
      (Item.ordinary items).map (Member.arrival {}) =
        [⟨Offset.wrap 4, Size.clamp 4, {}⟩, ⟨Offset.wrap 8, Size.clamp 4, {}⟩] ∧
      context.tally.Reconciles {} items step.context.tally ∧
      context.Frames .write step.context := by
  intro context line
  have arrivals : (context.emit .write line none).any (fun step =>
      match step.emission with
      | .members items => decide ((Item.ordinary items).map (Member.arrival {}) =
          [⟨Offset.wrap 4, Size.clamp 4, {}⟩, ⟨Offset.wrap 8, Size.clamp 4, {}⟩])
      | _ => false) = true := by decide +kernel
  obtain ⟨step, emitted, shape⟩ := (Option.any_eq_true _ _).mp arrivals
  obtain ⟨reconciles, -, frames⟩ := (emit_reconciles context .write line none).2 step emitted
  split at shape
  · next items emission =>
    exact ⟨step, items, emitted, emission, of_decide_eq_true shape, reconciles items emission,
      frames⟩
  · cases shape

end Context

end LayoutRecovery
