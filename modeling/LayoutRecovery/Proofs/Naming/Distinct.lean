import LayoutRecovery.Config.Basic
import LayoutRecovery.Proofs.Naming.Label
import LayoutRecovery.Proofs.Reconciliation.Gap
import LayoutRecovery.Proofs.Transcript.Course

/-!
# Names of members

As long as no conflict is reported the offsets of the members only go up: every member starts at or
behind the end of the one before it, as far as offsets go.  Names that say where a member stands are
therefore given twice only to members at the same place, the first of which takes no bytes there or
stands at the last offset.
-/

namespace LayoutRecovery

/-- The end of a member, clamped to the offsets. -/
def Member.reach (member : Member) : Int :=
  min member.limit Offset.maximum

/-- Members that start at or behind each other's ends, from a place on and up to another. -/
def Ascends (lower : Int) : List Member → Int → Prop
  | [], upper => lower ≤ upper
  | member :: rest, upper => lower ≤ member.offset.toInt ∧ Ascends member.reach rest upper

namespace Ascends

variable {lower middle upper : Int} {members left right : List Member}

theorem mono {below : Int} (down : below ≤ lower) (ascends : Ascends lower members upper) :
    Ascends below members upper := by
  cases members with
  | nil => exact Int.le_trans down ascends
  | cons member rest => exact ⟨Int.le_trans down ascends.1, ascends.2⟩

theorem append (first : Ascends lower left middle) (others : Ascends middle right upper) :
    Ascends lower (left ++ right) upper := by
  induction left generalizing lower with
  | nil => exact others.mono first
  | cons member rest ih => exact ⟨first.1, ih first.2⟩

theorem offset_le_reach (member : Member) : member.offset.toInt ≤ member.reach := by
  have upper := member.offset.toInt_le_maximum
  simp only [Member.reach, Member.limit]
  omega

theorem lower_le (ascends : Ascends lower members upper) {member : Member}
    (inside : member ∈ members) : lower ≤ member.offset.toInt := by
  induction members generalizing lower with
  | nil => cases inside
  | cons first rest ih =>
      rcases List.mem_cons.mp inside with rfl | later
      · exact ascends.1
      · exact Int.le_trans ascends.1 (Int.le_trans (offset_le_reach first) (ih ascends.2 later))

/-- Every later member starts at or behind the end of an earlier one. -/
theorem pairwise (ascends : Ascends lower members upper) :
    members.Pairwise fun earlier later => earlier.reach ≤ later.offset.toInt := by
  induction members generalizing lower with
  | nil => exact .nil
  | cons first rest ih => exact .cons (fun _ inside => ascends.2.lower_le inside) (ih ascends.2)

end Ascends

/-! ## Members and their labels -/

namespace Member

/-- A member with the name and the place of a label. -/
structure Bears (member : Member) (label : Label) : Prop where
  name : member.name = label.name
  offset : member.offset = label.offset

/-- A member in front of the end of a class: a padding of some bytes before the last offset, a
decoded member or a placeholder. -/
structure Labelled (member : Member) : Prop where
  bears : ∃ label, member.Bears label ∧ ∀ offset, label ≠ .closing offset
  solid : member.ignored = true → member.offset.toInt < member.reach

theorem offset_eq_of_name_eq {left right : Member} {first second : Label}
    (left_bears : left.Bears first) (right_bears : right.Bears second)
    (same : left.name = right.name) : left.offset = right.offset := by
  rw [left_bears.name, right_bears.name] at same
  rw [left_bears.offset, right_bears.offset, Label.name_injective same]

/-- A member that ends where it starts has no bytes or starts at the last offset. -/
theorem eq_zero_or_eq_maximum {member : Member} (flat : member.reach ≤ member.offset.toInt) :
    member.size = Size.zero ∨ member.offset.toInt = Offset.maximum := by
  have upper := member.offset.toInt_le_maximum
  simp only [reach, limit] at flat
  rcases Int.lt_or_eq_of_le upper with inside | last
  · refine .inl (Size.toNat_injective ?_)
    rw [Size.toNat_zero]
    omega
  · exact .inr last

end Member

/-! ## Runs without conflict -/

namespace Tally

/-- Members that lead from one tally to another on the way up, all labelled. -/
structure Climbs (before : Tally) (members : List Member) (after : Tally) : Prop where
  small : after.cursor.size.toNat < 0x8000000000000000
  ascends : Ascends before.cursor.stop.toInt members after.cursor.stop.toInt
  labelled : ∀ member ∈ members, member.Labelled

theorem labelled_padding {tally : Tally} {offset : Offset} (afterString : Bool)
    (separate : tally.cursor.stop.toInt < offset.toInt) :
    let padding := tally.padding (tally.cursor.gapTo offset).toNat afterString
    padding.Labelled ∧ padding.reach ≤ offset.toInt := by
  intro padding
  have fills := tally.fills_padding offset afterString
  have start : padding.offset.toInt = tally.cursor.stop.toInt := fills.start
  have bytes : (padding.size.toNat : Int) =
      min ((offset.toInt - tally.cursor.stop.toInt).toNat : Int) Offset.maximum.toNat := fills.bytes
  have upper := offset.toInt_le_maximum
  have reach : padding.reach = min (padding.offset.toInt + padding.size.toNat) Offset.maximum := rfl
  simp only [Offset.maximum] at upper bytes reach
  refine ⟨⟨⟨.padding padding.offset, ⟨rfl, rfl⟩, by simp⟩, fun _ => ?_⟩, ?_⟩ <;> omega

/-- What is found before a member that conflicts with nothing leads up to it. -/
theorem ascends_reconcile {tally : Tally} {offset : Offset}
    (quiet : tally.conflict? offset = none) (hints : Hints) :
    Ascends tally.cursor.stop.toInt (Item.members (tally.reconcile hints offset).items)
        offset.toInt ∧
      ∀ member ∈ Item.members (tally.reconcile hints offset).items, member.Labelled := by
  obtain ⟨-, behind⟩ := (tally.conflict?_eq_none_iff offset).mp quiet
  simp only [Reconciliation.items, reconcile, quiet]
  split
  · next padding present =>
    split at present
    · cases present
    · next kept =>
      have separate : tally.cursor.stop.toInt < offset.toInt := by
        rw [not_or, Cursor.toNat_gapTo] at kept
        omega
      obtain ⟨labelled, reach⟩ := labelled_padding hints.afterString separate
      rw [← Option.some.inj present]
      refine ⟨⟨Int.le_refl _, reach⟩, fun member inside => ?_⟩
      rw [show member = _ from List.mem_singleton.mp inside]
      exact labelled
  · exact ⟨behind, fun _ inside => by cases inside⟩

end Tally

/-- The settings under which members are called unknown and no subroutine is declared. -/
structure Context.Unnamed (context : Context) : Prop where
  stem : context.memberStem = "Unknown"
  subroutines : context.subroutines = []

namespace Context

variable {start : Context}

theorem Unnamed.labelled (unnamed : start.Unnamed) {member : Member} {stem : String}
    {addend : Addend} {bytes : Nat} (stands : member.StandsAt stem addend bytes)
    (granted : start.Grants stem bytes) :
    member.Labelled ∧ member.size.toNat < 0x8000000000000000 := by
  have solid : member.ignored = true → member.offset.toInt < member.reach := by
    intro filler
    rw [stands.ordinary] at filler
    cases filler
  rw [stands.bytes]
  cases granted with
  | decoded small =>
      have name := stands.name
      rw [unnamed.stem] at name
      exact ⟨⟨⟨.decoded addend, ⟨name, stands.offset⟩, by simp⟩, solid⟩, small⟩
  | placeholder small =>
      exact ⟨⟨⟨.placeholder addend, ⟨stands.name, stands.offset⟩, by simp⟩, solid⟩, small⟩
  | expanded known =>
      rw [unnamed.subroutines] at known
      cases known

/-- Members that are placed without conflict lead up. -/
theorem Unnamed.upholds (unnamed : start.Unnamed) :
    start.Upholds fun before members after =>
      before.cursor.size.toNat < 0x8000000000000000 → before.Climbs members after where
  refl tally small := ⟨small, Int.le_refl _, fun _ inside => by cases inside⟩
  trans first others small := by
    have below := first small
    have above := others below.small
    refine ⟨above.small, below.ascends.append above.ascends, fun member inside => ?_⟩
    rcases List.mem_append.mp inside with left | right
    · exact below.labelled member left
    · exact above.labelled member right
  place {context member stem addend bytes} _ stands granted quiet _ := by
    obtain ⟨labelled, small⟩ := unnamed.labelled stands granted
    obtain ⟨upward, paddings⟩ := Tally.ascends_reconcile (conflict?_of_quiet quiet) context.hints
    have stop : (context.place member).context.tally.cursor.stop.toInt = member.reach :=
      Cursor.toInt_stop small
    rw [Context.place, Item.members_append]
    refine ⟨small, upward.append ⟨Int.le_refl _, Int.le_of_eq stop.symm⟩, fun other inside => ?_⟩
    rcases List.mem_append.mp inside with padding | here
    · exact paddings other padding
    · rw [show other = member from List.mem_singleton.mp here]
      exact labelled

end Context

/-! ## Names of a class -/

/-- What two members of one name have in common, the earlier one of which stands in front. -/
structure Member.Coincides (earlier later : Member) : Prop where
  offset : earlier.offset = later.offset
  ordinary : earlier.ignored = false
  flat : earlier.size = Size.zero ∨ earlier.offset.toInt = Offset.maximum

theorem coincides_of_labelled {earlier later : Member} (first : earlier.Labelled)
    (second : later.Labelled) (behind : earlier.reach ≤ later.offset.toInt)
    (same : earlier.name = later.name) : earlier.Coincides later := by
  obtain ⟨label, bears, -⟩ := first.bears
  obtain ⟨other, other_bears, -⟩ := second.bears
  have offset := Member.offset_eq_of_name_eq bears other_bears same
  rw [← offset] at behind
  refine ⟨offset, ?_, Member.eq_zero_or_eq_maximum behind⟩
  cases filler : earlier.ignored with
  | false => rfl
  | true => exact absurd (first.solid filler) (Int.not_lt.mpr behind)

/-- The members of lines are named apart, and the padding at the end apart from all of them. -/
theorem pairwise_closing {context : Context} {members : List Member}
    (ascends : members.Pairwise fun earlier later => earlier.reach ≤ later.offset.toInt)
    (labelled : ∀ member ∈ members, member.Labelled) :
    (members ++ Item.members context.closing).Pairwise fun earlier later =>
      earlier.name = later.name → earlier.Coincides later := by
  refine List.pairwise_append.mpr ⟨?_, ?_, ?_⟩
  · refine ascends.imp_of_mem fun first second behind same => ?_
    exact coincides_of_labelled (labelled _ first) (labelled _ second) behind same
  · cases ending : Item.members context.closing with
    | nil => exact .nil
    | cons last rest =>
        have inside : last ∈ Item.members context.closing := by simp [ending]
        obtain ⟨declared, alone, -⟩ := Context.exists_endPadding_of_mem inside
        rw [← ending, alone]
        exact List.pairwise_singleton ..
  · intro member inside ending last same
    obtain ⟨label, bears, open_label⟩ := (labelled member inside).bears
    obtain ⟨declared, -, rfl⟩ := Context.exists_endPadding_of_mem last
    have ending : (context.endPadding declared).name =
        (Label.closing (context.endPadding declared).offset).name := rfl
    rw [bears.name, ending] at same
    exact absurd (Label.name_injective same) (open_label _)

theorem unnamed_start {heuristics : Heuristics} {lines : List SourceLine}
    (undeclared : ∀ line ∈ lines, Keyword.ofLine? line.characters ≠ some .subroutine) :
    (Style.start {} heuristics lines).Unnamed :=
  ⟨memberStem_applyDirectives _ lines, subroutines_applyDirectives _ undeclared⟩

/-- If no subroutine is declared and no conflict reported, two members of a class have one name only
at the same place, where the earlier one does more than fill space but takes no bytes, or at the
last offset.  All names differ if every such member takes bytes before the last offset. -/
theorem coincides_of_reconstruct {lines : List SourceLine} {stub : Stub}
    (returns : (Config.reconstruct {} lines).result = .ok (some stub))
    (undeclared : ∀ line ∈ lines, Keyword.ofLine? line.characters ≠ some .subroutine)
    (quiet : Item.Quiet stub.body) :
    ((Item.members stub.body).Pairwise fun earlier later =>
      earlier.name = later.name → earlier.Coincides later) ∧
    ((∀ member ∈ Item.members stub.body, member.ignored = false →
        member.size ≠ Size.zero ∧ member.offset.toInt ≠ Offset.maximum) →
      ((Item.members stub.body).map Member.name).Nodup) := by
  have pairwise : (Item.members stub.body).Pairwise fun earlier later =>
      earlier.name = later.name → earlier.Coincides later := by
    obtain ⟨signature, body, comes⟩ := exists_comesFrom_of_reconstruct returns
    obtain ⟨header, -, rfl⟩ := comes.transcribed
    have silent := (Item.quiet_append.mp (Item.quiet_append.mp quiet).1).1
    have unnamed : (Style.start {} {} lines).Unnamed := unnamed_start undeclared
    have fresh : (Style.start {} {} lines).tally.cursor.size.toNat < 0x8000000000000000 := by
      rw [Style.start, tally_applyDirectives]
      decide
    have climbs := unnamed.upholds.transcribe (.refl _) silent fresh
    rw [Stub.members_ofTranscript]
    exact pairwise_closing climbs.ascends.pairwise climbs.labelled
  refine ⟨pairwise, fun solid => ?_⟩
  rw [List.nodup_iff_pairwise_ne, List.pairwise_map]
  refine pairwise.imp_of_mem fun {earlier later} first second coincides same => ?_
  have twins := coincides same
  obtain ⟨sized, before⟩ := solid earlier first twins.ordinary
  exact twins.flat.elim sized before

/-- A byte, the placeholder of a call behind a gap, a number and an end padding have four names. -/
theorem coincides_of_reconstruct_call :
    let lines := SourceLine.ofTexts
      ["void f(int a1)", "#size 32", "  *(_BYTE *)a1 = 1;", "  sub_2(a1 + 4);",
        "  *(_DWORD *)(a1 + 12) = 5;"]
    ∃ stub, (Config.reconstruct {} lines).result = .ok (some stub) ∧
      (∀ line ∈ lines, Keyword.ofLine? line.characters ≠ some .subroutine) ∧
      Item.Quiet stub.body ∧ ((Item.members stub.body).map Member.name).Nodup := by
  intro lines
  have check : (Config.reconstruct {} lines).result.toOption.join.any (fun stub : Stub =>
      decide (Item.Quiet stub.body ∧ ∀ member ∈ Item.members stub.body, member.ignored = false →
        member.size ≠ Size.zero ∧ member.offset.toInt ≠ Offset.maximum)) = true := by
    decide +kernel
  have undeclared : ∀ line ∈ lines, Keyword.ofLine? line.characters ≠ some .subroutine := by
    decide +kernel
  obtain ⟨stub, found, meets⟩ := (Option.any_eq_true _ _).mp check
  obtain ⟨quiet, solid⟩ := of_decide_eq_true meets
  have returns := eq_ok_of_toOption found
  obtain ⟨-, distinct⟩ := coincides_of_reconstruct returns undeclared quiet
  exact ⟨stub, returns, undeclared, quiet, distinct solid⟩

theorem exists_not_nodup {lines : List SourceLine}
    (check : (Config.reconstruct {} lines).result.toOption.join.any (fun stub : Stub =>
      decide (Item.Quiet stub.body ∧ ¬ ((Item.members stub.body).map Member.name).Nodup)) = true) :
    ∃ stub, (Config.reconstruct {} lines).result = .ok (some stub) ∧
      Item.Quiet stub.body ∧ ¬ ((Item.members stub.body).map Member.name).Nodup := by
  obtain ⟨stub, found, meets⟩ := (Option.any_eq_true _ _).mp check
  exact ⟨stub, eq_ok_of_toOption found, of_decide_eq_true meets⟩

/-- A string of unknown size and the number at the same place have one name, and so have two numbers
at the last offset. -/
theorem not_nodup_at_one_place :
    let unsized := SourceLine.ofTexts
      ["void sub_1(a1)", "  strncpy(a1 + 8, \"abc\", v2);", "  *(_DWORD *)(a1 + 8) = 5;"]
    let saturated := SourceLine.ofTexts
      ["void sub_1(a1)", "  *(_DWORD *)(a1 + 0x7FFFFFFFFFFFFFFF) = 5;",
        "  *(_DWORD *)(a1 + 0x7FFFFFFFFFFFFFFF) = 5;"]
    (∀ line ∈ unsized ++ saturated, Keyword.ofLine? line.characters ≠ some .subroutine) ∧
      (∃ stub, (Config.reconstruct {} unsized).result = .ok (some stub) ∧
        Item.Quiet stub.body ∧ ¬ ((Item.members stub.body).map Member.name).Nodup) ∧
      ∃ stub, (Config.reconstruct {} saturated).result = .ok (some stub) ∧
        Item.Quiet stub.body ∧ ¬ ((Item.members stub.body).map Member.name).Nodup := by
  intro unsized saturated
  refine ⟨?_, exists_not_nodup ?_, exists_not_nodup ?_⟩
  · decide +kernel
  · decide +kernel
  · decide +kernel

end LayoutRecovery
