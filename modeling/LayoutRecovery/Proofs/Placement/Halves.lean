import LayoutRecovery.Proofs.Placement.Agreement
import LayoutRecovery.Proofs.Reconciliation.Gap
import Mathlib.Data.List.Basic

/-!
# Packed halves

A 64-bit literal whose low half reads as a floating-point number declares two members of four bytes.
Behind a literal addend the second one starts where the first one ends, and nothing is said between
them.  A symbolic addend counts as the start of the structure for either half, so that both take the
same four bytes.
-/

namespace LayoutRecovery

namespace Assignment

variable {assignment : Assignment} {stem : String} {first second : Member}

variable (assignment stem) in
theorem eq_single_or_packed_of_numeric (literal : IntLiteral) :
    (∃ member, assignment.numeric stem literal = [member]) ∨
      ∃ low, assignment.numeric stem literal = assignment.packed stem literal low := by
  unfold numeric
  dsimp only
  split
  · exact .inl ⟨_, rfl⟩
  · split
    · split
      · exact .inl ⟨_, rfl⟩
      · exact .inr ⟨_, rfl⟩
    · exact .inl ⟨_, rfl⟩

variable (assignment stem) in
/-- A write declares one member or a packed pair. -/
theorem eq_single_or_packed :
    (∃ member, assignment.members stem = [member]) ∨
      ∃ literal low, assignment.members stem = assignment.packed stem literal low := by
  unfold members
  split
  · next literal _ =>
    have numeric := assignment.eq_single_or_packed_of_numeric stem literal
    unfold ofInteger
    cases assignment.width with
    | bits8 => exact .inl ⟨_, rfl⟩
    | bits16 => exact .inl ⟨_, rfl⟩
    | bits128 => exact .inl ⟨_, rfl⟩
    | bits32 => exact numeric.imp_right fun packed => ⟨literal, packed⟩
    | bits64 => exact numeric.imp_right fun packed => ⟨literal, packed⟩
    | unknown => exact numeric.imp_right fun packed => ⟨literal, packed⟩
  · split <;> exact .inl ⟨_, rfl⟩

/-- Two floating-point members of four bytes for the halves of a write. -/
structure Halves (assignment : Assignment) (first second : Member) : Prop where
  first_type : first.type = .float
  second_type : second.type = .float
  first_bytes : first.size = Size.clamp 4
  second_bytes : second.size = Size.clamp 4
  first_offset : first.offset = assignment.target.offset
  second_offset : second.offset = (secondHalf assignment.target).offset

theorem halves_of_members (pair : assignment.members stem = [first, second]) :
    assignment.Halves first second := by
  rcases assignment.eq_single_or_packed stem with ⟨member, single⟩ | ⟨literal, low, packed⟩
  · rw [single] at pair
    cases pair
  · rw [packed, Assignment.packed] at pair
    split at pair <;>
      · obtain ⟨rfl, rest⟩ := List.cons.inj pair
        obtain ⟨rfl, -⟩ := List.cons.inj rest
        exact ⟨rfl, rfl, rfl, rfl, rfl, rfl⟩

end Assignment

namespace Tally

theorem stop_place_four (tally : Tally) {offset : Offset} (hints : Hints)
    (inside : offset.toInt + 4 ≤ Offset.maximum) :
    (tally.place offset (Size.clamp 4) hints).cursor.stop.toInt = offset.toInt + 4 :=
  have small : (Size.clamp 4).toNat < 0x8000000000000000 := by decide
  Cursor.toInt_stop_of_limit_le small inside

end Tally

theorem Offset.toInt_advance_four {offset : Offset} (inside : offset.toInt + 8 ≤ maximum) :
    (offset.advance 4).toInt = offset.toInt + 4 := by
  rw [toInt_advance (by decide)]
  omega

namespace Context

/-- Two halves that are placed one after the other: at a literal addend they adjoin, at a symbolic
one the second half takes the bytes of the first. -/
structure PlacesHalves (context : Context) (target : Addend) (first second : Member)
    (step : EmissionStep) : Prop where
  types : first.type = .float ∧ second.type = .float
  bytes : first.size.toNat = 4 ∧ second.size.toNat = 4
  starts : first.offset = target.offset
  emission : step.emission = .members ((context.reconcile first.offset).items ++
    Item.member first :: (((context.place first).context.reconcile second.offset).items ++
      [Item.member second]))
  literal : ∀ offset, target = .literal offset → offset.toInt + 8 ≤ Offset.maximum →
    second.offset.toInt = offset.toInt + 4 ∧
      ((context.place first).context.reconcile second.offset).Silent ∧
      step.context.tally.cursor.stop.toInt = offset.toInt + 8
  symbolic : ∀ token, target = .symbolic token →
    second.offset = first.offset ∧
      ((context.place first).context.reconcile second.offset).conflict =
        some (.overlap ⟨first.offset, first.size⟩ second.offset 4) ∧
      ((context.place first).context.reconcile second.offset).padding = none ∧
      step.context.tally.cursor.stop.toInt = first.offset.toInt + 4

theorem placesHalves_of_halves (context : Context) {assignment : Assignment}
    {first second : Member} (halves : assignment.Halves first second) {step : EmissionStep}
    (emission : step.emission = .members (context.placeAll [first, second]).items)
    (after : step.context = (context.placeAll [first, second]).context) :
    context.PlacesHalves assignment.target first second step where
  types := ⟨halves.first_type, halves.second_type⟩
  bytes := by
    rw [halves.first_bytes, halves.second_bytes]
    decide
  starts := halves.first_offset
  emission := by simpa [placeAll, place] using emission
  literal offset target inside := by
    have first_offset : first.offset = offset := by rw [halves.first_offset, target]; rfl
    have second_offset : second.offset = offset.advance 4 := by
      rw [halves.second_offset, target]
      rfl
    have advanced := Offset.toInt_advance_four inside
    have between : (context.place first).context.tally.cursor.stop.toInt = offset.toInt + 4 := by
      rw [place, halves.first_bytes, first_offset]
      exact context.tally.stop_place_four _ (by omega)
    refine ⟨by rw [second_offset, advanced], ?_, ?_⟩
    · refine Tally.silent_of_meets _ ?_ (by rw [between, second_offset, advanced])
      have start : (context.place first).context.tally.cursor.offset = offset := first_offset
      rw [start, second_offset, advanced]
      omega
    · have ends : step.context.tally =
          (context.place first).context.tally.place second.offset (Size.clamp 4)
            context.hints := by
        rw [after, ← halves.second_bytes]
        rfl
      rw [ends, second_offset, Tally.stop_place_four _ _ (by rw [advanced]; omega), advanced]
      omega
  symbolic token target := by
    have first_offset : first.offset = Offset.start := by rw [halves.first_offset, target]; rfl
    have second_offset : second.offset = Offset.start := by rw [halves.second_offset, target]; rfl
    have between : (context.place first).context.tally.cursor =
        ⟨Offset.start, Size.clamp 4⟩ := by
      rw [← first_offset, ← halves.first_bytes]
      rfl
    have ends : step.context.tally =
        (context.place first).context.tally.place Offset.start (Size.clamp 4)
          context.hints := by
      rw [after, ← halves.second_bytes, ← second_offset]
      rfl
    rw [second_offset, first_offset, halves.first_bytes, ends]
    refine ⟨rfl, ?_, ?_, Tally.stop_place_four _ _ (by decide)⟩
    · simp only [reconcile, Tally.reconcile, Tally.conflict?, between]
      decide
    · have closed : (Cursor.gapTo ⟨Offset.start, Size.clamp 4⟩ Offset.start).toNat = 0 := by decide
      simp only [reconcile, Tally.reconcile, between, closed, true_or, if_true]

/-- Whatever came before, a scalar write that declares two members declares two packed halves:
behind a literal addend they adjoin in silence, and behind a symbolic one both start at the same
place. -/
theorem placesHalves_of_emit {context : Context} {line : SourceLine} {next : Option SourceLine}
    {step : EmissionStep} {items : List Item} {first second : Member}
    (emitted : context.emit .write line next = some step)
    (spoken : step.emission = .members items) (pair : Item.ordinary items = [first, second]) :
    ∃ assignment, Assignment.read? line.characters = some assignment ∧
      context.PlacesHalves assignment.target first second step := by
  obtain ⟨⟨reading, log⟩, reads, rfl⟩ := Option.map_eq_some_iff.mp emitted
  simp only [Context.read] at reads
  split at reads
  · next assignment read =>
    cases reads
    have ordinary := context.ordinary_placeAll fun member inside => by
      obtain ⟨addend, bytes, -, stands⟩ :=
        (assignment.covers_members context.memberStem).exists_standsAt inside
      exact stands.ordinary
    have performed : ∀ declared,
        (context.perform line (.members [] declared)).emission =
            .members (context.placeAll declared).items ∧
          (context.perform line (.members [] declared)).context =
            (context.placeAll declared).context := fun _ => ⟨rfl, rfl⟩
    obtain ⟨emission, after⟩ := performed (assignment.members context.memberStem)
    have items_eq := Emission.members.inj (emission.symm.trans spoken)
    have declared : assignment.members context.memberStem = [first, second] := by
      rw [← ordinary, items_eq, pair]
    rw [declared] at emission after
    exact ⟨assignment, read,
      context.placesHalves_of_halves (Assignment.halves_of_members declared)
        (by rw [declared]; exact emission) (by rw [declared]; exact after)⟩
  · cases reads
    cases spoken

/-- Behind a string with fixup on, a packed pair at 20 is declared at 20 and 24. -/
theorem placesHalves_of_emit_behind_string :
    let context : Context :=
      { initial { absorbSlack := true } "Unknown" with
        tally := ⟨⟨Offset.wrap 4, Size.clamp 8⟩, Size.clamp 12⟩
        previousLine := some "  strncpy(a1 + 4, \"abc\", 8);" }
    let line : SourceLine := { index := 0, text := "  *(_QWORD *)(a1 + 20) = 0x40000000i64;" }
    ∃ step items first second, context.emit .write line none = some step ∧
      step.emission = .members items ∧ Item.ordinary items = [first, second] ∧
      context.PlacesHalves (.literal (Offset.wrap 20)) first second step ∧
      second.offset.toInt = 24 ∧ step.context.tally.cursor.stop.toInt = 28 := by
  intro context line
  have shape : (context.emit .write line none).any (fun step =>
      match step.emission with
      | .members items => decide ((Item.ordinary items).length = 2)
      | _ => false) = true := by decide +kernel
  have target : (Assignment.read? line.characters).map Assignment.target =
      some (.literal (Offset.wrap 20)) := by decide +kernel
  obtain ⟨step, emitted, pair⟩ := (Option.any_eq_true _ _).mp shape
  split at pair
  · next items spoken =>
    obtain ⟨first, second, ordinary⟩ := List.length_eq_two.1 (of_decide_eq_true pair)
    obtain ⟨assignment, read, halves⟩ := placesHalves_of_emit emitted spoken ordinary
    rw [read, Option.map_some, Option.some.injEq] at target
    rw [target] at halves
    obtain ⟨second_offset, -, ends⟩ := halves.literal _ rfl (by decide)
    exact ⟨step, items, first, second, emitted, spoken, ordinary, halves, second_offset, ends⟩
  · cases pair

/-- The second half of a packed pair at a symbolic addend is said to be placed four bytes behind the
first one, and starts at the same place. -/
theorem halves_overlap_symbolic :
    let context := initial {} "Unknown"
    let line : SourceLine := { index := 0, text := "  *(_QWORD *)(v1 + v2) = 0x40000000i64;" }
    ∃ step items first second, context.emit .write line none = some step ∧
      step.emission = .members items ∧ Item.ordinary items = [first, second] ∧
      first.type = .float ∧ second.type = .float ∧
      "placed 4 bytes after the first half" ∈ second.notes ∧
      first.offset.toInt + 8 ≤ Offset.maximum ∧
      second.offset.toInt ≠ first.offset.toInt + 4 ∧
      ((context.place first).context.reconcile second.offset).conflict ≠ none ∧
      step.context.tally.cursor.stop.toInt ≠ first.offset.toInt + 8 := by
  intro context line
  have shape : (context.emit .write line none).any (fun step =>
      match step.emission with
      | .members items =>
          (Item.ordinary items).head?.any fun first =>
            (Item.ordinary items).getLast?.any fun second =>
              decide (Item.ordinary items = [first, second] ∧
                first.type = .float ∧ second.type = .float ∧
                "placed 4 bytes after the first half" ∈ second.notes ∧
                first.offset.toInt + 8 ≤ Offset.maximum ∧
                second.offset.toInt ≠ first.offset.toInt + 4 ∧
                ((context.place first).context.reconcile second.offset).conflict ≠ none ∧
                step.context.tally.cursor.stop.toInt ≠ first.offset.toInt + 8)
      | _ => false) = true := by decide +kernel
  obtain ⟨step, emitted, meets⟩ := (Option.any_eq_true _ _).mp shape
  split at meets
  · next items spoken =>
    obtain ⟨first, -, behind⟩ := (Option.any_eq_true _ _).mp meets
    obtain ⟨second, -, apart⟩ := (Option.any_eq_true _ _).mp behind
    exact ⟨step, items, first, second, emitted, spoken, of_decide_eq_true apart⟩
  · cases meets

end Context

end LayoutRecovery
