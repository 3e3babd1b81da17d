import LayoutRecovery.Reconciliation

/-!
# Ends and gaps

The end of a member and the gap before the next one are clamped to the range of offsets.  Here they
are compared with the integers that they stand for: the clamped end of a member of less than
`2 ^ 63` bytes never lies before the member, and the gap has the sign of the true distance.
-/

namespace LayoutRecovery

/-- A place further on is held at the greatest offset. -/
theorem Offset.toInt_advance {offset : Offset} {bytes : Int} (forward : 0 ≤ bytes) :
    (offset.advance bytes).toInt = min (offset.toInt + bytes) maximum := by
  have lower := offset.minimum_le_toInt
  rw [advance, toInt_clamp]
  simp only [minimum, maximum] at lower ⊢
  omega

namespace Cursor

/-- The position after the last byte, as an integer. -/
def limit (cursor : Cursor) : Int :=
  cursor.offset.toInt + cursor.size.toNat

theorem offset_le_limit (cursor : Cursor) : cursor.offset.toInt ≤ cursor.limit := by
  simp only [limit]
  omega

theorem toInt_stop {cursor : Cursor} (small : cursor.size.toNat < 0x8000000000000000) :
    cursor.stop.toInt = min cursor.limit Offset.maximum := by
  have signed : cursor.size.signed = cursor.size.toNat := Size.signed_of_lt small
  rw [stop, signed]
  exact Offset.toInt_advance (Int.natCast_nonneg _)

/-- The clamped end is the true one as long as that is an offset. -/
theorem toInt_stop_of_limit_le {cursor : Cursor} (small : cursor.size.toNat < 0x8000000000000000)
    (inside : cursor.limit ≤ Offset.maximum) : cursor.stop.toInt = cursor.limit := by
  rw [toInt_stop small]
  exact Int.min_eq_left inside

theorem offset_le_stop {cursor : Cursor} (small : cursor.size.toNat < 0x8000000000000000) :
    cursor.offset.toInt ≤ cursor.stop.toInt := by
  rw [toInt_stop small]
  exact Int.le_min.mpr ⟨cursor.offset_le_limit, cursor.offset.toInt_le_maximum⟩

theorem gapTo_eq (cursor : Cursor) (offset : Offset) :
    cursor.gapTo offset =
      max Offset.minimum (min (offset.toInt - cursor.stop.toInt) Offset.maximum) :=
  Offset.toInt_clamp _

theorem gapTo_neg_iff (cursor : Cursor) (offset : Offset) :
    cursor.gapTo offset < 0 ↔ offset.toInt < cursor.stop.toInt := by
  rw [gapTo_eq]
  simp only [Offset.minimum, Offset.maximum]
  omega

theorem toNat_gapTo (cursor : Cursor) (offset : Offset) :
    (cursor.gapTo offset).toNat =
      min (offset.toInt - cursor.stop.toInt).toNat Offset.maximum.toNat := by
  rw [gapTo_eq]
  simp only [Offset.minimum, Offset.maximum]
  omega

/-- An overlap of a member of less than `2 ^ 63` bytes is counted in full. -/
theorem natAbs_gapTo {cursor : Cursor} {offset : Offset}
    (small : cursor.size.toNat < 0x8000000000000000)
    (forward : cursor.offset.toInt ≤ offset.toInt) (before : offset.toInt < cursor.stop.toInt) :
    (cursor.gapTo offset).natAbs = (cursor.stop.toInt - offset.toInt).toNat := by
  have near : cursor.stop.toInt ≤ cursor.limit := by
    rw [toInt_stop small]
    exact Int.min_le_left _ _
  rw [gapTo_eq]
  simp only [limit, Offset.minimum, Offset.maximum] at near ⊢
  omega

end Cursor

namespace Tally

theorem conflict?_eq_none_iff (tally : Tally) (offset : Offset) :
    tally.conflict? offset = none ↔
      tally.cursor.offset.toInt ≤ offset.toInt ∧ tally.cursor.stop.toInt ≤ offset.toInt := by
  simp only [conflict?, Cursor.gapTo_neg_iff]
  split
  · simp
    omega
  · split
    · simp
      omega
    · simp
      omega

end Tally
end LayoutRecovery
