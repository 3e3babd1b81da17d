import LayoutRecovery.Reconciliation

/-!
# Runs of the reconciliation

Members arrive one after the other, each with what is known about the one before it.  A run gives
the tally behind the last of them and what had to be said before each.
-/

namespace LayoutRecovery

/-- A member that arrives, with what is known about the one before it. -/
structure Arrival where
  /-- Where the member starts. -/
  offset : Offset
  /-- How many bytes it takes. -/
  size : Size
  /-- What is known about the member before it. -/
  hints : Hints
  deriving DecidableEq

namespace Tally

/-- Slack or padding, the gap before a member is counted once. -/
theorem place_eq (tally : Tally) (offset : Offset) (size : Size) (hints : Hints) :
    tally.place offset size hints =
      { cursor := ⟨offset, size⟩
        accumulated :=
          tally.accumulated.grow (size.toNat + (tally.cursor.gapTo offset).toNat) } := by
  simp only [place, Size.grow_grow]
  split
  · rw [Size.grow_grow, Nat.add_zero, Nat.add_comm]
  · rfl

/-- What is known about the member before decides only when the gap is counted. -/
theorem place_eq_place (tally : Tally) (offset : Offset) (size : Size) (left right : Hints) :
    tally.place offset size left = tally.place offset size right := by
  rw [place_eq, place_eq]

/-- The tally after some arrivals. -/
def run (tally : Tally) : List Arrival → Tally
  | [] => tally
  | arrival :: rest => (tally.place arrival.offset arrival.size arrival.hints).run rest

/-- What has to be said before each of some arrivals. -/
def reports (tally : Tally) : List Arrival → List Reconciliation
  | [] => []
  | arrival :: rest =>
      tally.reconcile arrival.hints arrival.offset ::
        (tally.place arrival.offset arrival.size arrival.hints).reports rest

theorem run_append (tally : Tally) (front back : List Arrival) :
    tally.run (front ++ back) = (tally.run front).run back := by
  induction front generalizing tally with
  | nil => rfl
  | cons arrival front ih => exact ih _

theorem run_eq_foldl (tally : Tally) (arrivals : List Arrival) :
    tally.run arrivals =
      (arrivals.map fun arrival => (arrival.offset, arrival.size)).foldl
        (fun before (offset, size) => before.place offset size) tally := by
  induction arrivals generalizing tally with
  | nil => rfl
  | cons arrival rest ih =>
      rw [run, tally.place_eq_place _ _ arrival.hints {}]
      exact ih _

end Tally
end LayoutRecovery
