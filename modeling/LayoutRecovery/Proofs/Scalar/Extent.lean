import LayoutRecovery.Proofs.Placement.Aim
import LayoutRecovery.Proofs.Placement.Halves
import LayoutRecovery.Proofs.Placement.Tiling

/-!
# Bytes of a scalar write

An integer literal that does not say its width declares the bytes that the type in the cast takes.
A literal with a fraction declares a double where that is eight bytes and a float elsewhere, and a
value that is no literal declares an integer of at most eight.  The bytes follow one another as long
as the offsets reach that far.
-/

namespace LayoutRecovery

namespace Assignment

variable (assignment : Assignment)

/-- How many bytes a write declares, told by its value and by the type in its cast. -/
inductive Extent : Nat → Prop
  /-- Of an integer literal without a suffix for 64 bits. -/
  | integer {literal : IntLiteral} (reads : IntLiteral.read? assignment.value.toList = some literal)
      (narrow : literal.wide = false) : Extent assignment.width.bytes
  /-- Of a literal with a fraction. -/
  | real {number : Double} (unread : IntLiteral.read? assignment.value.toList = none)
      (reads : Double.read? assignment.value.toList = some number) :
      Extent (if assignment.width = .bits64 then 8 else 4)
  /-- Of any other value. -/
  | expression (unread : IntLiteral.read? assignment.value.toList = none)
      (unreal : Double.read? assignment.value.toList = none) :
      Extent (if assignment.width = .bits128 then 4 else assignment.width.bytes)

/-- Members that follow one another from the place of a write: one, or two of four bytes each, the
second of which is held at the greatest offset. -/
structure Follows (members : List Member) : Prop where
  count : (∃ member, members = [member]) ∨ ∃ first second, members = [first, second] ∧
    first.size.toNat = 4 ∧ second.size.toNat = 4
  tiles : (∃ member, members = [member]) ∨
      (∃ offset, assignment.target = .literal offset ∧ offset.toInt + 4 ≤ Offset.maximum) →
    Tiles assignment.target.offset.toInt members
      (assignment.target.offset.toInt + declaredBytes members)
  saturates : ∀ offset first second, assignment.target = .literal offset →
    members = [first, second] →
      first.offset = offset ∧ second.offset.toInt = min (offset.toInt + 4) Offset.maximum

/-! ## The number of bytes -/

section Bytes

variable (stem : String)

theorem declaredBytes_single (type : MemberType) {bytes : Nat} (small : bytes ≤ Size.maximum)
    (finding : String) : declaredBytes [assignment.single stem type bytes finding] = bytes := by
  simp [declaredBytes, (assignment.standsAt_single stem type small finding).bytes]

theorem declaredBytes_packed (literal : IntLiteral) (low : String) :
    declaredBytes (assignment.packed stem literal low) = 8 := by
  unfold packed
  dsimp only
  split <;> rfl

/-- Whatever number a literal makes, it takes eight bytes if it is wide and four otherwise. -/
theorem declaredBytes_numeric (literal : IntLiteral) :
    declaredBytes (assignment.numeric stem literal) =
      if literal.wide || decide (assignment.width = .bits64) then 8 else 4 := by
  have four : 4 ≤ Size.maximum := by decide
  have eight : 8 ≤ Size.maximum := by decide
  unfold numeric
  dsimp only
  split
  · exact assignment.declaredBytes_single stem _ (by split <;> assumption) _
  · split
    · split
      · exact assignment.declaredBytes_single stem _ eight _
      · exact assignment.declaredBytes_packed stem literal _
    · exact assignment.declaredBytes_single stem _ four _

theorem declaredBytes_ofInteger {literal : IntLiteral} (narrow : literal.wide = false) :
    declaredBytes (assignment.ofInteger stem literal) = assignment.width.bytes := by
  have single := fun type {bytes} (small : bytes ≤ Size.maximum) finding =>
    assignment.declaredBytes_single stem type small finding
  have numeric := assignment.declaredBytes_numeric stem literal
  unfold ofInteger
  cases width : assignment.width with
  | bits8 => exact single _ (by decide) _
  | bits16 => exact single _ (by decide) _
  | bits128 => exact single _ (by decide) _
  | bits32 => exact numeric.trans (by simp [narrow, width, CastWidth.bytes])
  | bits64 => exact numeric.trans (by simp [narrow, width, CastWidth.bytes])
  | unknown => exact numeric.trans (by simp [narrow, width, CastWidth.bytes])

variable {assignment} in
theorem Extent.declaredBytes_members {bytes : Nat} (extent : assignment.Extent bytes) :
    declaredBytes (assignment.members stem) = bytes := by
  unfold members
  cases extent with
  | integer reads narrow =>
      rw [reads]
      exact assignment.declaredBytes_ofInteger stem narrow
  | real unread reads =>
      rw [unread, reads]
      exact assignment.declaredBytes_single stem _ (by split <;> decide) _
  | expression unread unreal =>
      have plain : plainBytes assignment.width =
          if assignment.width = .bits128 then 4 else assignment.width.bytes := by
        cases assignment.width <;> rfl
      rw [unread, unreal, ← plain]
      exact assignment.declaredBytes_single stem _ (by cases assignment.width <;> decide) _

end Bytes

/-! ## Where they are -/

variable {assignment} in
theorem Covers.follows {stem : String} {members : List Member}
    (covers : assignment.Covers stem members) : assignment.Follows members := by
  cases covers with
  | whole small stands =>
      refine ⟨.inl ⟨_, rfl⟩, fun _ => ⟨by rw [stands.offset], ?_⟩, ?_⟩
      · simp [Tiles, Member.limit, declaredBytes, stands.offset]
      · rintro offset first second - pair
        cases pair
  | @halves first second first_stands second_stands =>
      have saturates : ∀ offset, assignment.target = .literal offset →
          first.offset = offset ∧ second.offset.toInt = min (offset.toInt + 4) Offset.maximum := by
        intro offset place
        rw [first_stands.offset, second_stands.offset, place]
        exact ⟨rfl, Offset.toInt_advance (by decide)⟩
      refine ⟨.inr ⟨first, second, rfl, first_stands.bytes, second_stands.bytes⟩, ?_, ?_⟩
      · rintro (⟨member, alone⟩ | ⟨offset, place, inside⟩)
        · cases alone
        · obtain ⟨start, behind⟩ := saturates offset place
          have ends : first.limit = offset.toInt + 4 := by
            rw [Member.limit, start, first_stands.bytes]
            rfl
          refine ⟨by rw [start, place]; rfl, ?_, ?_⟩
          · rw [ends, behind, Int.min_eq_left inside]
          · simp only [Tiles, Member.limit, declaredBytes, List.map_cons, List.map_nil,
              List.sum_cons, List.sum_nil, first_stands.bytes, second_stands.bytes, behind,
              Int.min_eq_left inside, place]
            simp only [Addend.offset]
            omega
      · rintro offset left right place pair
        cases pair
        exact saturates offset place

/-- Whatever came before, a scalar write declares the bytes that its value and the type in its cast
say, and the members that it declares follow one another. -/
theorem follows_of_emit {context : Context} {line : SourceLine} {next : Option SourceLine}
    {step : EmissionStep} {items : List Item}
    (emitted : context.emit .write line next = some step)
    (spoken : step.emission = .members items) :
    ∃ assignment, read? line.characters = some assignment ∧
      assignment.Follows (Item.ordinary items) ∧
      ∀ bytes, assignment.Extent bytes → declaredBytes (Item.ordinary items) = bytes := by
  obtain ⟨assignment, parts, ordinary⟩ := Context.exists_assignment_of_emit emitted spoken
  rw [ordinary]
  exact ⟨assignment, parts, (assignment.covers_members context.memberStem).follows,
    fun bytes extent => extent.declaredBytes_members context.memberStem⟩

/-- A packed pair of eight bytes tiles them. -/
theorem follows_of_emit_packed :
    let context := Context.initial {} "Unknown"
    let line : SourceLine := { index := 0, text := "  *(_QWORD *)(v1 + 20) = 0x40000000;" }
    ∃ step items, context.emit .write line none = some step ∧ step.emission = .members items ∧
      declaredBytes (Item.ordinary items) = 8 ∧ Tiles 20 (Item.ordinary items) 28 := by
  intro context line
  have parts : (read? line.characters).map (fun assignment =>
      (assignment.target, assignment.width, (IntLiteral.read? assignment.value.toList).map
        IntLiteral.wide)) = some (.literal (Offset.wrap 20), .bits64, some false) := by
    decide +kernel
  obtain ⟨assignment, read, shape⟩ := Option.map_eq_some_iff.mp parts
  simp only [Prod.mk.injEq] at shape
  obtain ⟨place, width, value⟩ := shape
  obtain ⟨literal, reads, narrow⟩ := Option.map_eq_some_iff.mp value
  obtain ⟨step, items, emitted, spoken, -⟩ := context.exists_emit_write read none
  obtain ⟨other, same, follows, total⟩ := follows_of_emit emitted spoken
  obtain rfl := Option.some.inj (read.symm.trans same)
  have bytes : declaredBytes (Item.ordinary items) = 8 := by
    rw [total _ (.integer reads narrow), width]
    rfl
  have tiles := follows.tiles (.inr ⟨_, place, by decide⟩)
  rw [bytes, place] at tiles
  exact ⟨step, items, emitted, spoken, bytes, tiles⟩

/-- A value that is no literal declares four bytes of sixteen, and a literal with a fraction four of
two. -/
theorem declaredBytes_ne_width :
    let declared := fun (text : String) =>
      ((Context.initial {} "Unknown").emit .write { index := 0, text } none).map fun step =>
        declaredBytes (Item.ordinary step.emission.items)
    let width := fun (text : String) =>
      (Assignment.read? text.toList).map fun assignment => assignment.width.bytes
    width "  *(_OWORD *)v1 = v2;" = some 16 ∧ declared "  *(_OWORD *)v1 = v2;" = some 4 ∧
      width "  *(_WORD *)v1 = 1.5;" = some 2 ∧ declared "  *(_WORD *)v1 = 1.5;" = some 4 := by
  decide +kernel

end Assignment

end LayoutRecovery
