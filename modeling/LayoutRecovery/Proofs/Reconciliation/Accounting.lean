import LayoutRecovery.Proofs.Reconciliation.Distance
import LayoutRecovery.Proofs.Reconciliation.Run

/-!
# Accounting of bytes

As long as nothing is clamped, the accumulated size of a run exceeds the end of the last member by
exactly the bytes that members shared with the member before them.  The balance of one arrival is
added up along the run; how a gap is filled plays no part in it.
-/

namespace LayoutRecovery

/-- The bytes that stand for the gap before a member, as slack or as padding. -/
def Reconciliation.filled (reconciliation : Reconciliation) : Nat :=
  reconciliation.absorbed + (reconciliation.padding.map fun padding => padding.size.toNat).getD 0

namespace Tally

/-- An arrival at which no size, end, distance or total leaves its range. -/
structure Admits (tally : Tally) (arrival : Arrival) : Prop where
  /-- The size is the same as a signed word. -/
  size_lt : arrival.size.toNat < 0x8000000000000000
  /-- The member ends at an offset. -/
  limit_le : arrival.offset.toInt + arrival.size.toNat ≤ Offset.maximum
  /-- The gap before the member is a distance between offsets. -/
  gap_le : arrival.offset.toInt - tally.cursor.stop.toInt ≤ Offset.maximum
  /-- The accumulated size stays a size. -/
  total_le :
    tally.accumulated.toNat + arrival.size.toNat +
        (arrival.offset.toInt - tally.cursor.stop.toInt).toNat ≤ Size.maximum

/-- A run along which every arrival is admitted. -/
def InRange (tally : Tally) : List Arrival → Prop
  | [] => True
  | arrival :: rest =>
      tally.Admits arrival ∧ (tally.place arrival.offset arrival.size arrival.hints).InRange rest

/-- The bytes before the end of the previous member that a member at an offset takes again. -/
def overlap (tally : Tally) (offset : Offset) : Nat :=
  (tally.cursor.stop.toInt - offset.toInt).toNat

/-- All bytes that the members of a run take. -/
def occupied : List Arrival → Nat
  | [] => 0
  | arrival :: rest => arrival.size.toNat + occupied rest

/-- All bytes that stand for the gaps before the members of a run. -/
def fillings (tally : Tally) : List Arrival → Nat
  | [] => 0
  | arrival :: rest =>
      (tally.reconcile arrival.hints arrival.offset).filled +
        (tally.place arrival.offset arrival.size arrival.hints).fillings rest

/-- All bytes that the members of a run share with the member before them. -/
def overlaps (tally : Tally) : List Arrival → Nat
  | [] => 0
  | arrival :: rest =>
      tally.overlap arrival.offset +
        (tally.place arrival.offset arrival.size arrival.hints).overlaps rest

theorem inRange_of_append {tally : Tally} {front back : List Arrival}
    (inRange : tally.InRange (front ++ back)) : tally.InRange front := by
  induction front generalizing tally with
  | nil => trivial
  | cons arrival front ih => exact ⟨inRange.1, ih inRange.2⟩

/-! ## One arrival -/

/-- A gap is filled in full, whatever it is filled with. -/
theorem filled_reconcile (tally : Tally) (hints : Hints) (offset : Offset) :
    (tally.reconcile hints offset).filled = (tally.cursor.gapTo offset).toNat := by
  have bound : (tally.cursor.gapTo offset).toNat ≤ Size.maximum := by
    rw [Cursor.toNat_gapTo]
    simp only [Offset.maximum, Size.maximum]
    omega
  unfold Reconciliation.filled reconcile
  by_cases empty : (tally.cursor.gapTo offset).toNat = 0
  · simp [empty]
  · cases absorbs : hints.absorbsSlack && hints.afterString with
    | false => simp [empty, padding, Size.toNat_clamp, Nat.min_eq_left bound]
    | true => simp

theorem accumulated_place {tally : Tally} {arrival : Arrival} (admitted : tally.Admits arrival) :
    (tally.place arrival.offset arrival.size arrival.hints).accumulated.toNat =
      tally.accumulated.toNat + arrival.size.toNat +
        (arrival.offset.toInt - tally.cursor.stop.toInt).toNat := by
  have gap_le := admitted.gap_le
  have total_le := admitted.total_le
  rw [place_eq, Size.grow, Size.toNat_clamp, Cursor.toNat_gapTo]
  simp only [Offset.maximum, Size.maximum] at gap_le total_le ⊢
  omega

theorem stop_place {tally : Tally} {arrival : Arrival} (admitted : tally.Admits arrival) :
    (tally.place arrival.offset arrival.size arrival.hints).cursor.stop.toInt =
      arrival.offset.toInt + arrival.size.toNat :=
  Cursor.toInt_stop_of_limit_le admitted.size_lt admitted.limit_le

/-- The bytes by which the accumulated size exceeds the end grow by the overlap. -/
theorem balance_place {tally : Tally} {arrival : Arrival} (admitted : tally.Admits arrival) :
    ((tally.place arrival.offset arrival.size arrival.hints).accumulated.toNat : Int) -
        (tally.place arrival.offset arrival.size arrival.hints).cursor.stop.toInt =
      tally.accumulated.toNat - tally.cursor.stop.toInt + tally.overlap arrival.offset := by
  rw [accumulated_place admitted, stop_place admitted]
  simp only [overlap]
  omega

theorem conflict?_eq_none_iff_overlap {tally : Tally}
    (small : tally.cursor.size.toNat < 0x8000000000000000) (offset : Offset) :
    tally.conflict? offset = none ↔ tally.overlap offset = 0 := by
  have ordered := Cursor.offset_le_stop small
  rw [conflict?_eq_none_iff, overlap]
  omega

theorem accumulated_le_place (tally : Tally) (offset : Offset) (size : Size) (hints : Hints) :
    tally.accumulated.toNat ≤ (tally.place offset size hints).accumulated.toNat := by
  have bound := tally.accumulated.toNat_le_maximum
  rw [place_eq, Size.grow, Size.toNat_clamp]
  omega

/-! ## Runs of arrivals -/

theorem balance_run {tally : Tally} {arrivals : List Arrival} (inRange : tally.InRange arrivals) :
    ((tally.run arrivals).accumulated.toNat : Int) - (tally.run arrivals).cursor.stop.toInt =
      tally.accumulated.toNat - tally.cursor.stop.toInt + tally.overlaps arrivals := by
  induction arrivals generalizing tally with
  | nil => simp [run, overlaps]
  | cons arrival rest ih =>
      have first := balance_place inRange.1
      have others := ih inRange.2
      rw [run, overlaps, others, first]
      omega

/-- The accumulated size is made of the members and of what fills the gaps before them. -/
theorem accumulated_run_eq_sum {tally : Tally} {arrivals : List Arrival}
    (inRange : tally.InRange arrivals) :
    (tally.run arrivals).accumulated.toNat =
      tally.accumulated.toNat + occupied arrivals + tally.fillings arrivals := by
  induction arrivals generalizing tally with
  | nil => rfl
  | cons arrival rest ih =>
      have gap_le := inRange.1.gap_le
      have first := accumulated_place inRange.1
      rw [run, occupied, fillings, ih inRange.2, first, filled_reconcile, Cursor.toNat_gapTo]
      simp only [Offset.maximum] at gap_le ⊢
      omega

/-- The members of a run share no bytes exactly if none of them is reported. -/
theorem overlaps_eq_zero_iff {tally : Tally} {arrivals : List Arrival}
    (small : tally.cursor.size.toNat < 0x8000000000000000) (inRange : tally.InRange arrivals) :
    tally.overlaps arrivals = 0 ↔
      ∀ report ∈ tally.reports arrivals, report.conflict = none := by
  induction arrivals generalizing tally with
  | nil => simp [overlaps, reports]
  | cons arrival rest ih =>
      have first := conflict?_eq_none_iff_overlap small arrival.offset
      have others := ih inRange.1.size_lt inRange.2
      rw [overlaps, reports, Nat.add_eq_zero_iff, List.forall_mem_cons, ← others, ← first]
      rfl

theorem accumulated_le_run (tally : Tally) (arrivals : List Arrival) :
    tally.accumulated.toNat ≤ (tally.run arrivals).accumulated.toNat := by
  induction arrivals generalizing tally with
  | nil => exact Nat.le_refl _
  | cons arrival rest ih =>
      exact Nat.le_trans (tally.accumulated_le_place arrival.offset arrival.size _) (ih _)

/-- Along a run that stays in range, the accumulated size is the end of the last member and all
shared bytes; it never shrinks, and what is known about the members before plays no part in it. -/
theorem accumulated_run_eq_stop_add_overlaps (arrivals : List Arrival)
    (inRange : start.InRange arrivals) :
    (∀ front back, arrivals = front ++ back →
      ((start.run front).accumulated.toNat : Int) =
          (start.run front).cursor.stop.toInt + start.overlaps front ∧
        ((start.run front).accumulated.toNat = (start.run front).cursor.stop.toInt ↔
          ∀ report ∈ start.reports front, report.conflict = none) ∧
        (start.run front).accumulated.toNat = occupied front + start.fillings front ∧
        (start.run front).accumulated.toNat ≤ (start.run arrivals).accumulated.toNat) ∧
      ∀ others : List Arrival,
        (others.map fun arrival => (arrival.offset, arrival.size)) =
            (arrivals.map fun arrival => (arrival.offset, arrival.size)) →
          start.run others = start.run arrivals := by
  constructor
  · rintro front back rfl
    have front_inRange := inRange_of_append inRange
    have balance := balance_run front_inRange
    have no_overlap := overlaps_eq_zero_iff (by decide) front_inRange
    have parts := accumulated_run_eq_sum front_inRange
    have start_stop : start.cursor.stop.toInt = 0 := by decide
    have start_accumulated : start.accumulated.toNat = 0 := rfl
    rw [start_stop, start_accumulated] at balance
    refine ⟨by omega, ?_, by omega, ?_⟩
    · rw [← no_overlap]
      omega
    · rw [run_append]
      exact accumulated_le_run _ back
  · intro others same
    rw [run_eq_foldl, run_eq_foldl, same]

/-- A string of 16 bytes, a number behind its slack, and a number 16 bytes before that one ends. -/
theorem accumulated_run_shared_sixteen :
    let arrivals : List Arrival :=
      [{ offset := Offset.start, size := Size.clamp 16, hints := {} },
        { offset := Offset.wrap 20, size := Size.clamp 4
          hints := { afterString := true, absorbsSlack := true } },
        { offset := Offset.wrap 8, size := Size.clamp 4, hints := {} }]
    start.InRange arrivals ∧
      ((start.run arrivals).accumulated.toNat : Int) =
          (start.run arrivals).cursor.stop.toInt + start.overlaps arrivals ∧
        start.overlaps arrivals = 16 := by
  intro arrivals
  have inRange : start.InRange arrivals :=
    ⟨⟨by decide, by decide, by decide, by decide⟩, ⟨by decide, by decide, by decide, by decide⟩,
      ⟨by decide, by decide, by decide, by decide⟩, trivial⟩
  have balance := (accumulated_run_eq_stop_add_overlaps arrivals inRange).1 arrivals [] (by simp)
  exact ⟨inRange, balance.1, by decide⟩

end Tally
end LayoutRecovery
