import LayoutRecovery.Proofs.Reconciliation.Distance
import LayoutRecovery.Proofs.Reconciliation.Run

/-!
# Conflicts and gaps

What the reconciliation says of a member follows from where the previous member ends: a conflict
before that place, nothing at it, and one padding member behind it.  The law holds with the end
clamped to the greatest offset and the padding clamped to the greatest distance; with the true end
in place of the clamped one it fails at the far ends of the range.
-/

namespace LayoutRecovery

/-- A member that fills some bytes from a position on. -/
structure Member.Fills (padding : Member) (start bytes : Int) : Prop where
  /-- It only fills space. -/
  ignored : padding.ignored = true
  /-- It has no further structure. -/
  type : padding.type = .bytes
  /-- It starts at the position. -/
  start : padding.offset.toInt = start
  /-- It takes all of the bytes. -/
  bytes : (padding.size.toNat : Int) = bytes

/-- The conflict of a member at `offset` with one that ends behind it. -/
def Cursor.clash (cursor : Cursor) (offset : Offset) (limit : Int) : Conflict :=
  if offset.toInt < cursor.offset.toInt then .backward cursor.offset offset
  else .overlap cursor offset (limit - offset.toInt).toNat

/-- Nothing is said before a member and no bytes are counted for it. -/
structure Reconciliation.Silent (reconciliation : Reconciliation) : Prop where
  conflict : reconciliation.conflict = none
  absorbed : reconciliation.absorbed = 0
  padding : reconciliation.padding = none

theorem Reconciliation.Silent.items {reconciliation : Reconciliation}
    (silent : reconciliation.Silent) : reconciliation.items = [] := by
  simp [Reconciliation.items, silent.conflict, silent.padding]

namespace Tally

/-- What is said before a member at `offset` if the previous one ends at `limit`. -/
structure Separates (tally : Tally) (hints : Hints) (offset : Offset) (limit gap : Int) :
    Prop where
  /-- Before the end there is one warning and no padding. -/
  before : offset.toInt < limit →
    (tally.reconcile hints offset).items =
      [.remark (.conflict (tally.cursor.clash offset limit))]
  /-- At the end there is nothing to say. -/
  meets : offset.toInt = limit → (tally.reconcile hints offset).items = []
  /-- Behind the end there is no warning, and one padding member fills the gap. -/
  behind : limit < offset.toInt →
    ∃ padding : Member, padding.Fills limit gap ∧
      (tally.reconcile hints offset).items = [.blank, .member padding, .blank]

theorem items_reconcile_of_no_gap {tally : Tally} {offset : Offset} (hints : Hints)
    (closed : offset.toInt ≤ tally.cursor.stop.toInt) :
    (tally.reconcile hints offset).items =
      ((tally.conflict? offset).map fun conflict =>
        Item.remark (.conflict conflict)).toList := by
  have empty : (tally.cursor.gapTo offset).toNat = 0 := by
    rw [Cursor.toNat_gapTo]
    omega
  simp [reconcile, Reconciliation.items, empty]

theorem silent_of_meets {tally : Tally} {offset : Offset} (hints : Hints)
    (ordered : tally.cursor.offset.toInt ≤ offset.toInt)
    (meets : tally.cursor.stop.toInt = offset.toInt) : (tally.reconcile hints offset).Silent := by
  have empty : (tally.cursor.gapTo offset).toNat = 0 := by
    rw [Cursor.toNat_gapTo]
    omega
  have quiet : tally.conflict? offset = none :=
    (tally.conflict?_eq_none_iff offset).mpr (by omega)
  exact ⟨quiet, by simp [reconcile, empty], by simp [reconcile, empty]⟩

theorem items_reconcile_of_gap {tally : Tally} {hints : Hints} {offset : Offset}
    (ordered : tally.cursor.offset.toInt ≤ offset.toInt)
    (separate : tally.cursor.stop.toInt < offset.toInt)
    (unabsorbed : (tally.reconcile hints offset).absorbed = 0) :
    (tally.reconcile hints offset).items =
      [.blank, .member (tally.padding (tally.cursor.gapTo offset).toNat hints.afterString),
        .blank] := by
  have quiet : tally.conflict? offset = none :=
    (tally.conflict?_eq_none_iff offset).mpr ⟨ordered, by omega⟩
  have open_gap : (tally.cursor.gapTo offset).toNat ≠ 0 := by
    rw [Cursor.toNat_gapTo]
    simp only [Offset.maximum]
    omega
  have keeps : (hints.absorbsSlack && hints.afterString) = false := by
    cases absorbs : hints.absorbsSlack && hints.afterString with
    | false => rfl
    | true => exact absurd (by simpa [reconcile, absorbs] using unabsorbed) open_gap
  simp [reconcile, Reconciliation.items, quiet, open_gap, keeps]

theorem fills_padding (tally : Tally) (offset : Offset) (afterString : Bool) :
    (tally.padding (tally.cursor.gapTo offset).toNat afterString).Fills
      tally.cursor.stop.toInt
      (min (offset.toInt - tally.cursor.stop.toInt).toNat Offset.maximum.toNat) where
  ignored := rfl
  type := rfl
  start := rfl
  bytes := by
    rw [Cursor.toNat_gapTo]
    simp only [padding, Size.toNat_clamp, Size.maximum, Offset.maximum]
    omega

theorem conflict?_of_lt_stop {tally : Tally} {offset : Offset}
    (small : tally.cursor.size.toNat < 0x8000000000000000)
    (inside : offset.toInt < tally.cursor.stop.toInt) :
    tally.conflict? offset = some (tally.cursor.clash offset tally.cursor.stop.toInt) := by
  have negative := (tally.cursor.gapTo_neg_iff offset).mpr inside
  unfold conflict? Cursor.clash
  by_cases ordered : tally.cursor.offset.toInt ≤ offset.toInt
  · have bytes := Cursor.natAbs_gapTo small ordered inside
    simp only [negative, if_true, bytes]
    split <;> rfl
  · simp only [show offset.toInt < tally.cursor.offset.toInt by omega, if_true]

/-- The law for any tally, in terms of the clamped end of the previous member. -/
theorem separates_stop {tally : Tally} {hints : Hints} {offset : Offset}
    (small : tally.cursor.size.toNat < 0x8000000000000000)
    (unabsorbed : (tally.reconcile hints offset).absorbed = 0) :
    tally.Separates hints offset tally.cursor.stop.toInt
      (min (offset.toInt - tally.cursor.stop.toInt).toNat Offset.maximum.toNat) where
  before inside := by
    rw [items_reconcile_of_no_gap hints (by omega), conflict?_of_lt_stop small inside]
    rfl
  meets touching := by
    have ordered := Cursor.offset_le_stop small
    exact (silent_of_meets hints (by omega) touching.symm).items
  behind separate := by
    have ordered := Cursor.offset_le_stop small
    exact ⟨_, tally.fills_padding offset hints.afterString,
      items_reconcile_of_gap (by omega) separate unabsorbed⟩

/-- After any run a member moves the cursor to itself, and behind one of less than `2 ^ 63` bytes it
is separated as the integers have it, with the end of that one clamped to the greatest offset and
the gap to the greatest distance. -/
theorem separates_of_run (arrivals : List Arrival) (hints : Hints) (offset : Offset) (size : Size)
    (unabsorbed : ((start.run arrivals).reconcile hints offset).absorbed = 0) :
    (start.run (arrivals ++ [⟨offset, size, hints⟩])).cursor = ⟨offset, size⟩ ∧
      ((start.run arrivals).cursor.size.toNat < 0x8000000000000000 →
        (start.run arrivals).Separates hints offset
          (min (start.run arrivals).cursor.limit Offset.maximum)
          (min (offset.toInt - (start.run arrivals).cursor.limit) Offset.maximum)) := by
  constructor
  · rw [run_append]
    rfl
  intro small
  have law := separates_stop small unabsorbed
  rw [Cursor.toInt_stop small] at law
  refine ⟨law.before, law.meets, fun separate => ?_⟩
  obtain ⟨padding, fills, items⟩ := law.behind separate
  refine ⟨padding, ⟨fills.ignored, fills.type, fills.start, ?_⟩, items⟩
  have upper := offset.toInt_le_maximum
  rw [fills.bytes]
  simp only [Offset.maximum] at separate upper ⊢
  omega

/-- A member at 16 behind one that ends at 10. -/
theorem separates_of_run_six :
    let arrivals : List Arrival :=
      [{ offset := Offset.wrap 8, size := Size.clamp 2, hints := {} }]
    let offset := Offset.wrap 16
    ((start.run arrivals).reconcile {} offset).absorbed = 0 ∧
      (start.run (arrivals ++ [{ offset, size := Size.clamp 4, hints := {} }])).cursor =
          { offset, size := Size.clamp 4 } ∧
        (start.run arrivals).Separates {} offset
          (min (start.run arrivals).cursor.limit Offset.maximum)
          (min (offset.toInt - (start.run arrivals).cursor.limit) Offset.maximum) := by
  intro arrivals offset
  have unabsorbed : ((start.run arrivals).reconcile {} offset).absorbed = 0 := by decide
  obtain ⟨moved, separates⟩ :=
    separates_of_run arrivals {} offset (Size.clamp 4) unabsorbed
  exact ⟨unabsorbed, moved, separates (by decide)⟩

/-- With the true end of the previous member the law fails: an overlap at the greatest offset is
not reported, a gap wider than the greatest distance is padded in part, and a member of `2 ^ 63`
bytes counts as ending before its start. -/
theorem not_separates_at_extremes :
    let late := start.run
      [{ offset := Offset.wrap (Offset.maximum - 1), size := Size.clamp 4, hints := {} }]
    let early := start.run
      [{ offset := Offset.wrap Offset.minimum, size := Size.zero, hints := {} }]
    let vast := start.run
      [{ offset := Offset.start, size := Size.clamp 0x8000000000000000, hints := {} }]
    let last := Offset.wrap Offset.maximum
    let near := Offset.wrap 8
    ((late.reconcile {} last).absorbed = 0 ∧
        ¬ late.Separates {} last late.cursor.limit (last.toInt - late.cursor.limit)) ∧
      ((early.reconcile {} last).absorbed = 0 ∧
        ¬ early.Separates {} last early.cursor.limit (last.toInt - early.cursor.limit)) ∧
      ((vast.reconcile {} near).absorbed = 0 ∧
        ¬ vast.Separates {} near vast.cursor.limit (near.toInt - vast.cursor.limit)) := by
  intro late early vast last near
  refine ⟨⟨by decide +kernel, fun law => ?_⟩, ⟨by decide +kernel, fun law => ?_⟩,
    ⟨by decide +kernel, fun law => ?_⟩⟩
  · have silent : (late.reconcile {} last).items = [] := by decide +kernel
    have warned := law.before (by decide +kernel)
    rw [silent] at warned
    cases warned
  · obtain ⟨padding, fills, items⟩ := law.behind (by decide +kernel)
    have short : (early.reconcile {} last).items =
        [.blank, .member (early.padding 0x7FFFFFFFFFFFFFFF false), .blank] := by decide +kernel
    rw [short] at items
    have same : early.padding 0x7FFFFFFFFFFFFFFF false = padding :=
      Item.member.inj (List.cons.inj (List.cons.inj items).2).1
    rw [← same] at fills
    exact absurd fills.bytes (by decide +kernel)
  · have padded : (vast.reconcile {} near).items =
        [.blank, .member (vast.padding 0x7FFFFFFFFFFFFFFF false), .blank] := by decide +kernel
    have warned := law.before (by decide +kernel)
    rw [padded] at warned
    cases warned

end Tally
end LayoutRecovery
