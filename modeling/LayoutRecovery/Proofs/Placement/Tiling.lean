import LayoutRecovery.Proofs.Reconciliation.Accounting
import LayoutRecovery.Proofs.Reconciliation.Gap
import LayoutRecovery.Proofs.Transcript.Course
import Mathlib.Algebra.GroupWithZero.Nat

/-!
# Members tile the structure

As long as no conflict is reported and no gap is absorbed, the declared members cover the structure
without gap and without overlap.  The invariant is that the accumulated size is the end of the last
member; paddings close the gaps between members, and the end padding starts at the accumulated size.
-/

namespace LayoutRecovery

/-- Members that cover a range of bytes, each starting where the one before it ends. -/
def Tiles : Int → List Member → Int → Prop
  | start, [], finish => start = finish
  | start, member :: rest, finish => member.offset.toInt = start ∧ Tiles member.limit rest finish

/-- All bytes that members declare. -/
def declaredBytes (members : List Member) : Nat :=
  (members.map fun member => member.size.toNat).sum

theorem tiles_append {start middle finish : Int} {left right : List Member}
    (first : Tiles start left middle) (others : Tiles middle right finish) :
    Tiles start (left ++ right) finish := by
  induction left generalizing start with
  | nil =>
      have same : start = middle := first
      rw [same]
      exact others
  | cons member rest ih => exact ⟨first.1, ih first.2⟩

theorem tiles_singleton {member : Member} {start bytes : Int} (fills : member.Fills start bytes) :
    Tiles start [member] (start + bytes) := by
  have limit : member.limit = start + bytes := by
    rw [Member.limit, fills.start, fills.bytes]
  exact ⟨fills.start, limit⟩

/-- Pieces that report no conflict and whose members end at offsets. -/
structure Item.Orderly (items : List Item) : Prop where
  /-- No conflict is reported. -/
  quiet : ∀ conflict, Item.remark (.conflict conflict) ∉ items
  /-- Every member, unless it only fills space, ends at an offset. -/
  bounded : ∀ member ∈ Item.members items, member.ignored = false → member.limit ≤ Offset.maximum

namespace Item

theorem orderly_iff {items : List Item} :
    Orderly items ↔ Quiet items ∧
      ∀ member ∈ members items, member.ignored = false → member.limit ≤ Offset.maximum :=
  ⟨fun orderly => ⟨orderly.quiet, orderly.bounded⟩, fun both => ⟨both.1, both.2⟩⟩

instance (items : List Item) : Decidable (Orderly items) :=
  decidable_of_iff _ orderly_iff.symm

theorem orderly_of_append {left right : List Item} (orderly : Orderly (left ++ right)) :
    Orderly left ∧ Orderly right := by
  have quiet := orderly.quiet
  have bounded := orderly.bounded
  simp only [members_append, List.mem_append] at quiet bounded
  exact
    ⟨⟨fun conflict found => quiet conflict (.inl found),
        fun member found => bounded member (.inl found)⟩,
      ⟨fun conflict found => quiet conflict (.inr found),
        fun member found => bounded member (.inr found)⟩⟩

end Item

namespace Tally

/-- A tally that has counted every byte before the end of the last member once. -/
structure Contiguous (tally : Tally) : Prop where
  /-- The last member does not start before the structure. -/
  nonneg : 0 ≤ tally.cursor.offset.toInt
  /-- The last member ends at an offset. -/
  limit_le : tally.cursor.limit ≤ Offset.maximum
  /-- The accumulated size is the end of the last member. -/
  accumulated_eq : (tally.accumulated.toNat : Int) = tally.cursor.limit

/-- Pieces of a class body that lead from one contiguous tally to another. -/
structure Continues (before : Tally) (items : List Item) (after : Tally) : Prop where
  /-- Every byte is counted once afterwards. -/
  contiguous : after.Contiguous
  /-- The members lie between the ends of the two tallies. -/
  tiles : Tiles before.cursor.limit (Item.members items) after.cursor.limit

theorem contiguous_start : start.Contiguous where
  nonneg := by decide
  limit_le := by decide
  accumulated_eq := by decide

theorem Contiguous.size_lt {tally : Tally} (contiguous : tally.Contiguous) :
    tally.cursor.size.toNat < 0x8000000000000000 := by
  have nonneg := contiguous.nonneg
  have limit_le := contiguous.limit_le
  simp only [Cursor.limit, Offset.maximum] at limit_le
  omega

theorem Contiguous.toInt_stop {tally : Tally} (contiguous : tally.Contiguous) :
    tally.cursor.stop.toInt = tally.cursor.limit :=
  Cursor.toInt_stop_of_limit_le contiguous.size_lt contiguous.limit_le

/-! ## One member -/

/-- A member that neither conflicts with the previous one nor ends too late is admitted. -/
theorem Contiguous.admits {tally : Tally} (contiguous : tally.Contiguous) {arrival : Arrival}
    (quiet : tally.conflict? arrival.offset = none)
    (bounded : arrival.offset.toInt + arrival.size.toNat ≤ Offset.maximum) :
    tally.Admits arrival := by
  have nonneg := contiguous.nonneg
  have counted := contiguous.accumulated_eq
  obtain ⟨forward, behind⟩ := (tally.conflict?_eq_none_iff arrival.offset).mp quiet
  have upper := arrival.offset.toInt_le_maximum
  rw [contiguous.toInt_stop] at behind
  have positive : 0 ≤ tally.cursor.limit := Int.le_trans nonneg tally.cursor.offset_le_limit
  constructor
  · simp only [Offset.maximum] at bounded
    omega
  · exact bounded
  · rw [contiguous.toInt_stop]
    omega
  · rw [contiguous.toInt_stop]
    simp only [Offset.maximum, Size.maximum] at bounded ⊢
    omega

theorem contiguous_place {tally : Tally} (contiguous : tally.Contiguous) (arrival : Arrival)
    (quiet : tally.conflict? arrival.offset = none)
    (bounded : arrival.offset.toInt + arrival.size.toNat ≤ Offset.maximum) :
    (tally.place arrival.offset arrival.size arrival.hints).Contiguous := by
  have admitted := contiguous.admits quiet bounded
  have nonneg := contiguous.nonneg
  have counted := contiguous.accumulated_eq
  obtain ⟨forward, behind⟩ := (tally.conflict?_eq_none_iff arrival.offset).mp quiet
  refine ⟨Int.le_trans nonneg forward, admitted.limit_le, ?_⟩
  rw [contiguous.toInt_stop] at behind
  rw [accumulated_place admitted, contiguous.toInt_stop]
  simp only [place, Cursor.limit] at counted behind ⊢
  omega

/-- What precedes an admitted member fills the gap before it. -/
theorem tiles_reconcile {tally : Tally} (contiguous : tally.Contiguous) {hints : Hints}
    {offset : Offset} (quiet : tally.conflict? offset = none)
    (unabsorbed : hints.absorbsSlack = false) :
    Tiles tally.cursor.limit (Item.members (tally.reconcile hints offset).items) offset.toInt := by
  have keeps : (tally.reconcile hints offset).absorbed = 0 := by
    simp [reconcile, unabsorbed]
  have law := separates_stop contiguous.size_lt keeps
  obtain ⟨-, behind⟩ := (tally.conflict?_eq_none_iff offset).mp quiet
  have upper := offset.toInt_le_maximum
  have lower := Int.le_trans contiguous.nonneg tally.cursor.offset_le_limit
  rw [contiguous.toInt_stop] at law behind
  rcases Int.lt_or_eq_of_le behind with separate | touching
  · obtain ⟨padding, fills, items⟩ := law.behind separate
    have bytes : min ((offset.toInt - tally.cursor.limit).toNat : Int) Offset.maximum.toNat =
        offset.toInt - tally.cursor.limit := by
      simp only [Offset.maximum] at upper ⊢
      omega
    rw [bytes] at fills
    have tile := tiles_singleton fills
    have reaches : tally.cursor.limit + (offset.toInt - tally.cursor.limit) = offset.toInt := by
      omega
    rw [reaches] at tile
    rw [items]
    exact tile
  · rw [law.meets touching.symm]
    exact touching

end Tally

namespace Context

open Tally

/-- A member behind what reconciling it turns up leads on without gap. -/
theorem continues_place {context : Context} (contiguous : context.tally.Contiguous)
    (unabsorbed : context.hints.absorbsSlack = false) {member : Member}
    (ordinary : member.ignored = false) (orderly : Item.Orderly (context.place member).items) :
    context.tally.Continues (context.place member).items (context.place member).context.tally := by
  have bounded : member.limit ≤ Offset.maximum := by
    refine orderly.bounded member ?_ ordinary
    simp [place, Item.members, Item.member?]
  have quiet := conflict?_of_quiet orderly.quiet
  refine ⟨contiguous_place contiguous (member.arrival context.hints) quiet bounded, ?_⟩
  rw [place, Item.members_append]
  exact tiles_append (tiles_reconcile contiguous quiet unabsorbed) ⟨rfl, rfl⟩

/-! ## Lines -/

/-- Without slack to absorb, members that are placed without conflict and end at offsets tile. -/
theorem upholds_tiles {start : Context} (unabsorbed : start.hints.absorbsSlack = false) :
    start.Upholds fun before members after => before.Contiguous →
      (∀ member ∈ members, member.ignored = false → member.limit ≤ Offset.maximum) →
        after.Contiguous ∧ Tiles before.cursor.limit members after.cursor.limit where
  refl tally contiguous _ := ⟨contiguous, rfl⟩
  trans first others contiguous bounded := by
    obtain ⟨between, front⟩ := first contiguous fun member inside =>
      bounded member (List.mem_append_left _ inside)
    obtain ⟨behind, rest⟩ := others between fun member inside =>
      bounded member (List.mem_append_right _ inside)
    exact ⟨behind, tiles_append front rest⟩
  place {context member stem addend bytes} same stands _ quiet contiguous bounded := by
    have still : context.hints.absorbsSlack = false := by
      rw [hints, same.heuristics]
      exact unabsorbed
    have placed := continues_place contiguous still stands.ordinary ⟨quiet, bounded⟩
    exact ⟨placed.contiguous, placed.tiles⟩

theorem continues_transcribe {context : Context} (contiguous : context.tally.Contiguous)
    (unabsorbed : context.hints.absorbsSlack = false) {lines : List SourceLine}
    (orderly : Item.Orderly (context.transcribe lines).items) :
    context.tally.Continues (context.transcribe lines).items
      (context.transcribe lines).context.tally := by
  obtain ⟨behind, tiles⟩ :=
    (upholds_tiles unabsorbed).transcribe (.refl context) orderly.quiet contiguous orderly.bounded
  exact ⟨behind, tiles⟩

theorem declaredSize_transcribe (context : Context) (lines : List SourceLine) :
    (context.transcribe lines).context.declaredSize = context.declaredSize := by
  rw [context_transcribe]
  exact (context.sameSettings_after lines []).declaredSize

end Context

/-! ## The whole class -/

namespace Stub

/-- What stands behind the last line: one padding if the declared size is not reached. -/
structure Closes (stub : Stub) (ending : List Member) : Prop where
  /-- Without a declared size there is nothing. -/
  undeclared : stub.header.declaredSize = none → ending = []
  /-- If the declared size is reached, there is nothing. -/
  reached : ∀ declared, stub.header.declaredSize = some declared →
    declared.toNat ≤ stub.accumulated.toNat → ending = []
  /-- Otherwise one padding fills the structure up to the declared size. -/
  short : ∀ declared, stub.header.declaredSize = some declared →
    stub.accumulated.toNat < declared.toNat →
      ∃ padding : Member,
        padding.Fills stub.accumulated.toNat (declared.toNat - stub.accumulated.toNat) ∧
          padding.name = "EndPadding" ++ padding.offset.suffix ∧ ending = [padding]

end Stub

/-- The end padding fills the structure from the accumulated size up to the declared one. -/
theorem Context.fills_endPadding {context : Context} {declared : Size}
    (inside : (context.tally.accumulated.toNat : Int) ≤ Offset.maximum)
    (short : context.tally.accumulated.toNat < declared.toNat) :
    (context.endPadding declared).Fills context.tally.accumulated.toNat
      (declared.toNat - context.tally.accumulated.toNat) where
  ignored := rfl
  type := rfl
  start := by
    refine Offset.toInt_wrap_of_mem ?_ inside
    simp only [Offset.minimum]
    omega
  bytes := by
    have bound := declared.toNat_le_maximum
    simp only [endPadding, Size.toNat_clamp]
    omega

namespace Stub

theorem closes_ofTranscript {header : Header} {transcript : Transcript}
    (inside : (transcript.context.tally.accumulated.toNat : Int) ≤ Offset.maximum)
    (same : header.declaredSize = transcript.context.declaredSize) :
    (ofTranscript header transcript).Closes (Item.members transcript.context.closing) where
  undeclared missing := by
    have none_declared : transcript.context.declaredSize = none := same.symm.trans missing
    simp only [Context.closing, none_declared]
    rfl
  reached declared given enough := by
    have some_declared : transcript.context.declaredSize = some declared := same.symm.trans given
    have full : ¬ transcript.context.tally.accumulated.toNat < declared.toNat :=
      Nat.not_lt.mpr enough
    simp only [Context.closing, some_declared, if_neg full]
    split <;> rfl
  short declared given open_end := by
    have some_declared : transcript.context.declaredSize = some declared := same.symm.trans given
    refine ⟨transcript.context.endPadding declared,
      Context.fills_endPadding inside open_end, rfl, ?_⟩
    have missing : transcript.context.tally.accumulated.toNat < declared.toNat := open_end
    simp only [Context.closing, some_declared, if_pos missing]
    rfl

theorem Closes.tiles {stub : Stub} {ending : List Member} (closes : stub.Closes ending)
    {declared : Size} (given : stub.header.declaredSize = some declared)
    (enough : stub.accumulated.toNat ≤ declared.toNat) :
    Tiles stub.accumulated.toNat ending declared.toNat := by
  rcases Nat.lt_or_eq_of_le enough with open_end | full
  · obtain ⟨padding, fills, -, only⟩ := closes.short declared given open_end
    have tile := tiles_singleton fills
    have reaches : (stub.accumulated.toNat : Int) +
        (declared.toNat - stub.accumulated.toNat) = declared.toNat := by omega
    rw [reaches] at tile
    rw [only]
    exact tile
  · rw [closes.reached declared given (Nat.le_of_eq full.symm), full]
    rfl

end Stub

theorem exists_transcript_of_reconstruct {style : Style} {heuristics : Heuristics}
    {fingerprint : String → UInt32} {lines : List SourceLine} {stub : Stub}
    (returns : (reconstruct style heuristics fingerprint lines).result = .ok (some stub)) :
    let context := ((Context.initial heuristics style.memberStem).applyDirectives lines).context
    ∃ header body, header.declaredSize = context.declaredSize ∧
      stub = Stub.ofTranscript header (context.transcribe body) := by
  obtain ⟨signature, body, comes⟩ := exists_comesFrom_of_reconstruct returns
  obtain ⟨header, same, stub_eq⟩ := comes.transcribed
  exact ⟨header, body, same, stub_eq⟩

/-- A class whose lines are read from the start of the structure on is tiled by its members. -/
theorem exists_tiles_ofTranscript {context : Context} {header : Header} {lines : List SourceLine}
    (untouched : context.tally = Tally.start) (same : header.declaredSize = context.declaredSize)
    (unabsorbed : context.hints.absorbsSlack = false)
    (orderly : Item.Orderly (Stub.ofTranscript header (context.transcribe lines)).body) :
    let stub := Stub.ofTranscript header (context.transcribe lines)
    ∃ placed ending : List Member,
      Item.members stub.body = placed ++ ending ∧ Tiles 0 placed stub.accumulated.toNat ∧
        stub.Closes ending := by
  intro stub
  have contiguous : context.tally.Contiguous := by
    rw [untouched]
    exact Tally.contiguous_start
  have lines_orderly : Item.Orderly (context.transcribe lines).items :=
    (Item.orderly_of_append (Item.orderly_of_append orderly).1).1
  have continues := Context.continues_transcribe contiguous unabsorbed lines_orderly
  have counted := continues.contiguous.accumulated_eq
  have placed := continues.tiles
  have inside := continues.contiguous.limit_le
  rw [← counted] at placed inside
  rw [untouched] at placed
  have closes := Stub.closes_ofTranscript inside
    (same.trans (context.declaredSize_transcribe lines).symm)
  exact ⟨_, _, Stub.members_ofTranscript _ _, placed, closes⟩

/-- The members of a class tile the structure: those of the lines and the paddings between them up
to the accumulated size, and with the end padding up to the declared one. -/
theorem tiles_reconstruct (style : Style) (heuristics : Heuristics)
    (fingerprint : String → UInt32) (lines : List SourceLine) (stub : Stub)
    (returns : (reconstruct style heuristics fingerprint lines).result = .ok (some stub))
    (unabsorbed :
      ((Context.initial heuristics style.memberStem).applyDirectives
        lines).context.hints.absorbsSlack = false)
    (orderly : Item.Orderly stub.body) :
    ∃ placed ending : List Member,
      Item.members stub.body = placed ++ ending ∧
        Tiles 0 placed stub.accumulated.toNat ∧
        stub.Closes ending ∧
        ∀ declared, stub.header.declaredSize = some declared →
          stub.accumulated.toNat ≤ declared.toNat → Tiles 0 (placed ++ ending) declared.toNat := by
  obtain ⟨header, body, same, rfl⟩ := exists_transcript_of_reconstruct returns
  obtain ⟨placed, ending, members, tiles, closes⟩ :=
    exists_tiles_ofTranscript (tally_applyDirectives ..) same unabsorbed orderly
  refine ⟨placed, ending, members, tiles, closes, ?_⟩
  intro declared given enough
  exact tiles_append tiles (closes.tiles given enough)

/-- A byte, a gap of three bytes, eight bytes and an end padding make up sixteen bytes. -/
theorem tiles_reconstruct_sixteen :
    let lines :=
      SourceLine.ofTexts
        ["void f(int a1)", "#size 16", "  *(_BYTE *)a1 = 1;", "  *(_QWORD *)(a1 + 4) = x;"]
    let context := ((Context.initial {} "Unknown").applyDirectives lines).context
    ∃ stub, (reconstruct {} {} (fun _ => 0) lines).result = .ok (some stub) ∧
      context.hints.absorbsSlack = false ∧ Item.Orderly stub.body ∧
        ∃ placed ending : List Member,
          Item.members stub.body = placed ++ ending ∧ Tiles 0 placed 12 ∧ stub.Closes ending ∧
            Tiles 0 (placed ++ ending) 16 := by
  intro lines context
  have check : ((reconstruct {} {} (fun _ => 0) lines).result.toOption.join.any fun stub =>
      decide (Item.Orderly stub.body ∧ stub.header.declaredSize = some (Size.clamp 16) ∧
        stub.accumulated.toNat = 12)) = true := by decide +kernel
  have unabsorbed : context.hints.absorbsSlack = false := by decide +kernel
  obtain ⟨stub, found, meets⟩ := (Option.any_eq_true _ _).mp check
  obtain ⟨orderly, given, counted⟩ := of_decide_eq_true meets
  have returns : (reconstruct {} {} (fun _ => 0) lines).result = .ok (some stub) := by
    cases outcome : (reconstruct {} {} (fun _ => 0) lines).result with
    | error error => simp [outcome, Except.toOption] at found
    | ok result => simpa [outcome, Except.toOption] using found
  obtain ⟨placed, ending, members, tiles, closes, whole⟩ :=
    tiles_reconstruct {} {} (fun _ => 0) lines stub returns unabsorbed orderly
  rw [counted] at tiles
  have filled := whole _ given (by rw [counted]; decide)
  exact ⟨stub, returns, unabsorbed, orderly, placed, ending, members, tiles, closes, filled⟩

end LayoutRecovery
