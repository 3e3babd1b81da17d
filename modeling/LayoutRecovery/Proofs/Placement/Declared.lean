import LayoutRecovery.Emission

/-!
# Declared members

What a body line can declare, whatever it says: members that are named after the addend of a pointer
and start there.  A scalar write declares one such member or the two halves of a wide value, a
string copy and a call declare one.  Unless a member stands for a declared subroutine it takes less
than `2 ^ 63` bytes.  The members of one line leave no gap between them.
-/

namespace LayoutRecovery

namespace Member

/-- A member of some bytes, named after an addend and starting there, that does more than fill
space. -/
structure StandsAt (member : Member) (stem : String) (addend : Addend) (bytes : Nat) : Prop where
  name : member.name = Context.memberName stem addend
  offset : member.offset = addend.offset
  bytes : member.size.toNat = bytes
  ordinary : member.ignored = false

theorem StandsAt.withNote {member : Member} {stem : String} {addend : Addend} {bytes : Nat}
    (stands : member.StandsAt stem addend bytes) (note : String) :
    (member.withNote note).StandsAt stem addend bytes :=
  ⟨stands.name, stands.offset, stands.bytes, stands.ordinary⟩

end Member

/-- Members that leave no gap behind a cursor nor between them. -/
def Cursor.Adjoins (cursor : Cursor) : List Member → Prop
  | [] => True
  | member :: rest =>
      member.offset.toInt ≤ cursor.stop.toInt ∧ Adjoins ⟨member.offset, member.size⟩ rest

namespace Assignment

theorem standsAt_single (assignment : Assignment) (stem : String) (type : MemberType) {bytes : Nat}
    (small : bytes ≤ Size.maximum) (finding : String) :
    (assignment.single stem type bytes finding).StandsAt stem assignment.target bytes where
  name := rfl
  offset := rfl
  bytes := (Size.toNat_clamp bytes).trans (Nat.min_eq_left small)
  ordinary := rfl

/-- One member for a whole write, or one for each half of it. -/
inductive Covers (assignment : Assignment) (stem : String) : List Member → Prop
  | whole {member : Member} {bytes : Nat} (small : bytes ≤ 16)
      (stands : member.StandsAt stem assignment.target bytes) : Covers assignment stem [member]
  | halves {first second : Member} (first_stands : first.StandsAt stem assignment.target 4)
      (second_stands : second.StandsAt stem (secondHalf assignment.target) 4) :
      Covers assignment stem [first, second]

namespace Covers

variable {assignment : Assignment} {stem : String} {members : List Member}

theorem ne_nil (covers : assignment.Covers stem members) : members ≠ [] := by
  cases covers <;> simp

theorem exists_standsAt (covers : assignment.Covers stem members) {member : Member}
    (inside : member ∈ members) :
    ∃ addend bytes, bytes ≤ 16 ∧ member.StandsAt stem addend bytes := by
  cases covers with
  | whole small stands =>
      rw [List.mem_singleton.mp inside]
      exact ⟨_, _, small, stands⟩
  | halves first_stands second_stands =>
      have four : 4 ≤ 16 := by decide
      simp only [List.mem_cons, List.not_mem_nil, or_false] at inside
      rcases inside with rfl | rfl
      · exact ⟨_, _, four, first_stands⟩
      · exact ⟨_, _, four, second_stands⟩

/-- The second half starts where the first one ends, or both halves at the start. -/
theorem adjoins {first : Member} {rest : List Member}
    (covers : assignment.Covers stem (first :: rest)) :
    Cursor.Adjoins ⟨first.offset, first.size⟩ rest := by
  cases covers with
  | whole small stands => trivial
  | halves first_stands second_stands =>
      refine ⟨?_, trivial⟩
      have signed : first.size.signed = 4 := by
        rw [Size.signed_of_lt] <;> simp [first_stands.bytes]
      rw [Cursor.stop, signed, first_stands.offset, second_stands.offset]
      cases assignment.target with
      | literal offset => exact Int.le_refl _
      | symbolic token =>
          show Offset.start.toInt ≤ (Offset.start.advance 4).toInt
          decide

end Covers

variable (assignment : Assignment) (stem : String)

theorem covers_single (type : MemberType) {bytes : Nat} (small : bytes ≤ 16) (finding : String) :
    assignment.Covers stem [assignment.single stem type bytes finding] :=
  .whole small (assignment.standsAt_single stem type (Nat.le_trans small (by decide)) finding)

theorem covers_packed (literal : IntLiteral) (low : String) :
    assignment.Covers stem (assignment.packed stem literal low) := by
  have four : 4 ≤ Size.maximum := by decide
  have first := assignment.standsAt_single stem .float four
  have second := { assignment with target := secondHalf assignment.target }.standsAt_single stem
    .float four
  unfold packed
  dsimp only
  split
  · exact .halves (first _) (second _)
  · exact .halves (first _) ((second _).withNote _)

theorem covers_numeric (literal : IntLiteral) :
    assignment.Covers stem (assignment.numeric stem literal) := by
  have four : 4 ≤ 16 := by decide
  have eight : 8 ≤ 16 := by decide
  unfold numeric
  dsimp only
  split
  · exact assignment.covers_single stem _ (by split <;> assumption) _
  · split
    · split
      · exact assignment.covers_single stem _ eight _
      · exact assignment.covers_packed stem literal _
    · exact assignment.covers_single stem _ four _

/-- Whatever is written, the members of a write are one or two at its place. -/
theorem covers_members : assignment.Covers stem (assignment.members stem) := by
  have single := fun type {bytes} (small : bytes ≤ 16) finding =>
    assignment.covers_single stem type small finding
  unfold members
  split
  · next literal _ =>
    have numeric := assignment.covers_numeric stem literal
    unfold ofInteger
    cases assignment.width with
    | bits8 => exact single _ (by decide) _
    | bits16 => exact single _ (by decide) _
    | bits128 => exact single _ (by decide) _
    | bits32 => exact numeric
    | bits64 => exact numeric
    | unknown => exact numeric
  · split
    · exact single _ (by split <;> decide) _
    · exact single _ (by cases assignment.width <;> decide) _

end Assignment

/-! ## Copies and calls -/

namespace Copy

/-- A size that is read off a copy is a number that was not negative. -/
theorem size_lt {copy : Copy} {size : Size} (found : copy.size? = some size) :
    size.toNat < 0x8000000000000000 := by
  obtain ⟨literal, -, admitted⟩ := Option.bind_eq_some_iff.mp found
  split at admitted
  · have upper := literal.value.toInt_lt
    rw [← Option.some.inj admitted, Size.toNat_clamp]
    omega
  · cases admitted

theorem standsAt_member (copy : Copy) (stem : String) :
    (copy.member stem).StandsAt stem copy.target (copy.size?.getD Size.zero).toNat := by
  unfold member
  split
  · next size found =>
    rw [found]
    exact ⟨rfl, rfl, rfl, rfl⟩
  · next missing =>
    rw [missing]
    exact ⟨rfl, rfl, rfl, rfl⟩

end Copy

namespace Call

theorem distance_lt {offset : Offset} {next : Option SourceLine} {size : Size}
    (found : distance? offset next = some size) : size.toNat < 0x8000000000000000 := by
  unfold distance? at found
  split at found
  · dsimp only at found
    split at found
    · next near =>
      rw [← Option.some.inj found, Size.toNat_clamp]
      simp only [Offset.maximum] at near
      omega
    · cases found
  · cases found

theorem standsAt_expanded (call : Call) (subroutine : Subroutine) :
    (call.expanded subroutine).StandsAt subroutine.targetType call.target
      subroutine.size.toNat :=
  ⟨rfl, rfl, rfl, rfl⟩

theorem standsAt_placeholder (call : Call) (size : Option Size) :
    (call.placeholder size).StandsAt "Subroutine" call.target (size.getD Size.zero).toNat :=
  ⟨rfl, rfl, rfl, rfl⟩

end Call

/-! ## Readings -/

/-- The pieces that stand above the members of a reading. -/
def Reading.opening : Reading → List Item
  | members opening _ => opening
  | _ => []

/-- A start of names and a size that a member can have in a context. -/
inductive Context.Grants (context : Context) : String → Nat → Prop
  | decoded {bytes : Nat} (small : bytes < 0x8000000000000000) :
      Grants context context.memberStem bytes
  | placeholder {bytes : Nat} (small : bytes < 0x8000000000000000) :
      Grants context "Subroutine" bytes
  | expanded {subroutine : Subroutine} (known : subroutine ∈ context.subroutines) :
      Grants context subroutine.targetType subroutine.size.toNat

/-- A reading that declares members at addends, below at most an empty line. -/
structure Reading.Declares (reading : Reading) (context : Context) : Prop where
  opening : reading.opening = [] ∨ reading.opening = [.blank]
  /-- If it emits members at all, there is one. -/
  filled : ∀ opening members, reading = .members opening members → members ≠ []
  adjoins : ∀ first rest, reading.declared = first :: rest →
    Cursor.Adjoins ⟨first.offset, first.size⟩ rest
  members : ∀ member ∈ reading.declared, ∃ stem addend bytes,
    member.StandsAt stem addend bytes ∧ context.Grants stem bytes

namespace Reading

variable {context : Context}

theorem declares_nothing {reading : Reading} (silent : reading.opening = [])
    (empty : reading.declared = [])
    (other : ∀ opening members, reading ≠ .members opening members) : reading.Declares context where
  opening := .inl silent
  filled opening members same := absurd same (other opening members)
  adjoins first rest same := by
    rw [empty] at same
    cases same
  members member inside := by
    rw [empty] at inside
    cases inside

theorem declares_singleton {reading : Reading} {member : Member} {stem : String}
    {addend : Addend} {bytes : Nat} (opening : reading.opening = [] ∨ reading.opening = [.blank])
    (single : reading.declared = [member]) (stands : member.StandsAt stem addend bytes)
    (granted : context.Grants stem bytes) : reading.Declares context where
  opening := opening
  filled opening members same := by
    rw [same] at single
    simp [show members = [member] from single]
  adjoins first rest same := by
    rw [single] at same
    cases same
    trivial
  members other inside := by
    rw [single, List.mem_singleton] at inside
    rw [inside]
    exact ⟨stem, addend, bytes, stands, granted⟩

end Reading

namespace Context

variable (context : Context)

theorem declares_assignment (assignment : Assignment) :
    (Reading.members [] (assignment.members context.memberStem)).Declares context := by
  have covers := assignment.covers_members context.memberStem
  refine ⟨.inl rfl, fun opening members same => ?_, fun first rest same => ?_,
    fun member inside => ?_⟩
  · rw [← (Reading.members.inj same).2]
    exact covers.ne_nil
  · rw [show assignment.members context.memberStem = first :: rest from same] at covers
    exact covers.adjoins
  · obtain ⟨addend, bytes, small, stands⟩ := covers.exists_standsAt inside
    exact ⟨_, addend, bytes, stands, .decoded (Nat.lt_of_le_of_lt small (by decide))⟩

theorem declares_copy (copy : Copy) (next : Option SourceLine) :
    (copy.reading context next).Declares context := by
  have stands := copy.standsAt_member context.memberStem
  have granted : context.Grants context.memberStem (copy.size?.getD Size.zero).toNat := by
    cases found : copy.size? with
    | none => exact .decoded (by decide)
    | some size => exact .decoded (Copy.size_lt found)
  simp only [Copy.reading]
  split
  · exact Reading.declares_singleton (.inl rfl) rfl stands granted
  · exact Reading.declares_singleton (.inl rfl) rfl stands granted

theorem declares_call (line : SourceLine) (next : Option SourceLine) :
    (Call.reading context line next).Declares context := by
  simp only [Call.reading]
  split
  · exact Reading.declares_nothing rfl rfl (by simp)
  · split
    · next subroutine found =>
      exact Reading.declares_singleton (.inr rfl) rfl
        ((Call.ofLine line).standsAt_expanded subroutine)
        (.expanded (List.mem_of_find?_eq_some found))
    · refine Reading.declares_singleton (.inr rfl) rfl
        ((Call.ofLine line).standsAt_placeholder _) (.placeholder ?_)
      cases found : Call.distance? (Call.ofLine line).target.offset next with
      | none => decide
      | some size => exact Call.distance_lt found

/-- Whatever a line says, its members stand at addends. -/
theorem read_declares {kind : LineKind} {line : SourceLine} {next : Option SourceLine}
    {reading : Reading} {log : List LogRecord}
    (found : context.read kind line next = some (reading, log)) : reading.Declares context := by
  cases kind with
  | inert => cases found
  | loop =>
      cases found
      exact Reading.declares_nothing rfl rfl (by simp)
  | write =>
      simp only [read] at found
      split at found
      · cases found
        exact context.declares_assignment _
      · cases found
        exact Reading.declares_nothing rfl rfl (by simp)
  | copy =>
      simp only [read] at found
      split at found
      · cases found
        exact context.declares_copy _ next
      · cases found
        exact Reading.declares_nothing rfl rfl (by simp)
  | call =>
      cases found
      exact context.declares_call line next

end Context

/-! ## Strings -/

section Strings

variable (assignment : Assignment) (stem : String)

theorem Assignment.single_type_ne {type : MemberType} (other : type ≠ .string) (bytes : Nat)
    (finding : String) :
    ∀ member ∈ [assignment.single stem type bytes finding], member.type ≠ .string := by
  intro member alone
  rw [List.mem_singleton.mp alone]
  exact other

theorem Assignment.packed_type_ne (literal : IntLiteral) (low : String) :
    ∀ member ∈ assignment.packed stem literal low, member.type ≠ .string := by
  have floats : MemberType.float ≠ .string := by decide
  unfold packed
  dsimp only
  split
  · exact List.forall_mem_cons.mpr ⟨floats, single_type_ne _ _ floats _ _⟩
  · exact List.forall_mem_cons.mpr ⟨floats, List.forall_mem_singleton.mpr floats⟩

theorem Assignment.numeric_type_ne (literal : IntLiteral) :
    ∀ member ∈ assignment.numeric stem literal, member.type ≠ .string := by
  unfold numeric
  dsimp only
  split
  · exact single_type_ne _ _ (by split <;> decide) _ _
  · split
    · split
      · exact single_type_ne _ _ (by decide) _ _
      · exact packed_type_ne _ _ literal _
    · exact single_type_ne _ _ (by decide) _ _

theorem Assignment.members_type_ne :
    ∀ member ∈ assignment.members stem, member.type ≠ .string := by
  unfold members
  split
  · next literal _ =>
    have numeric := assignment.numeric_type_ne stem literal
    unfold ofInteger
    cases assignment.width with
    | bits8 => exact single_type_ne _ _ (by decide) _ _
    | bits16 => exact single_type_ne _ _ (by decide) _ _
    | bits128 => exact single_type_ne _ _ (by decide) _ _
    | bits32 => exact numeric
    | bits64 => exact numeric
    | unknown => exact numeric
  · split
    · exact single_type_ne _ _ (by split <;> decide) _ _
    · exact single_type_ne _ _ (by cases assignment.width <;> decide) _ _

end Strings

/-- Only a copy declares a string. -/
theorem Context.eq_copy_of_string {context : Context} {kind : LineKind} {line : SourceLine}
    {next : Option SourceLine} {reading : Reading} {log : List LogRecord}
    (found : context.read kind line next = some (reading, log)) {member : Member}
    (inside : member ∈ reading.declared) (type : member.type = .string) : kind = .copy := by
  cases kind with
  | copy => rfl
  | inert => cases found
  | loop =>
      cases found
      cases inside
  | write =>
      simp only [read] at found
      split at found
      · next assignment _ =>
        cases found
        exact absurd type (assignment.members_type_ne _ member inside)
      · cases found
        cases inside
  | call =>
      cases found
      simp only [Call.reading] at inside
      split at inside
      · cases inside
      · split at inside
        · rw [List.mem_singleton.mp inside] at type
          cases type
        · rw [List.mem_singleton.mp inside] at type
          cases type

end LayoutRecovery
