import LayoutRecovery.Proofs.Naming.Token
import LayoutRecovery.Proofs.Placement.Agreement
import LayoutRecovery.Proofs.Transcript.Course

/-!
# Stems of names

Every member of a class is named by a stem and the addend at which it stands.  The stem says what
the member is for: a padding, the placeholder of a call, a decoded member or the expanded type of a
call.  The end of the name tells the addend, so that under one stem the name tells where the member
stands.
-/

namespace LayoutRecovery

/-! ## Named members -/

namespace Member

/-- A member named by a stem and an addend, at which it stands. -/
structure Called (member : Member) (stem : String) (addend : Addend) : Prop where
  name : member.name = Context.memberName stem addend
  offset : member.offset = addend.offset

instance (member : Member) (stem : String) (addend : Addend) :
    Decidable (member.Called stem addend) :=
  decidable_of_iff (member.name = Context.memberName stem addend ∧ member.offset = addend.offset)
    ⟨fun both => ⟨both.1, both.2⟩, fun called => ⟨called.name, called.offset⟩⟩

theorem StandsAt.called {member : Member} {stem : String} {addend : Addend} {bytes : Nat}
    (stands : member.StandsAt stem addend bytes) : member.Called stem addend :=
  ⟨stands.name, stands.offset⟩

/-- Under one stem a name tells where its member stands. -/
theorem Called.offset_eq {first second : Member} {stem : String} {left right : Addend}
    (first_called : first.Called stem left) (second_called : second.Called stem right)
    (same : first.name = second.name) : first.offset = second.offset := by
  rw [first_called.name, second_called.name] at same
  have addends := Addend.suffix_injective ((String.append_right_inj stem).mp same)
  rw [first_called.offset, second_called.offset, addends]

end Member

namespace Context

/-- How the names of members can start in a context. -/
def stems (context : Context) : List String :=
  ["Padding", "EndPadding", "Subroutine", context.memberStem] ++
    context.subroutines.map Subroutine.targetType

/-- A member named by a stem of the context and an addend that can be read. -/
def Calls (context : Context) (member : Member) : Prop :=
  ∃ stem ∈ context.stems, ∃ addend : Addend, addend.Readable ∧ member.Called stem addend

end Context

/-! ## Lines -/

namespace Assignment

theorem readable_of_read? {line : List Char} {assignment : Assignment}
    (found : read? line = some assignment) : assignment.target.Readable := by
  obtain ⟨⟨target, source⟩, -, rest⟩ := Option.bind_eq_some_iff.mp found
  dsimp only at rest
  split at rest
  · cases rest
  · rw [← Option.some.inj rest]
    exact Addend.readable_ofText target

theorem Covers.exists_called {assignment : Assignment} {stem : String} {members : List Member}
    (covers : assignment.Covers stem members) (readable : assignment.target.Readable)
    {member : Member} (inside : member ∈ members) :
    ∃ addend : Addend, addend.Readable ∧ member.Called stem addend := by
  cases covers with
  | whole small stands =>
      rw [List.mem_singleton.mp inside]
      exact ⟨_, readable, stands.called⟩
  | halves first_stands second_stands =>
      simp only [List.mem_cons, List.not_mem_nil, or_false] at inside
      rcases inside with rfl | rfl
      · exact ⟨_, readable, first_stands.called⟩
      · exact ⟨_, readable.secondHalf, second_stands.called⟩

end Assignment

theorem Copy.readable_of_read {line : List Char} {copy : Copy} (found : read line = .ok copy) :
    copy.target.Readable := by
  unfold read at found
  split at found
  · rw [← Except.ok.inj found]
    exact Addend.readable_ofText _
  · cases found

namespace Context

variable {start context : Context} {member : Member}

theorem Calls.of_sameSettings (called : context.Calls member) (same : start.SameSettings context) :
    start.Calls member := by
  rw [Calls, stems, same.memberStem, same.subroutines] at called
  exact called

theorem calls_of_read {kind : LineKind} {line : SourceLine} {next : Option SourceLine}
    {reading : Reading} {log : List LogRecord}
    (found : context.read kind line next = some (reading, log))
    (inside : member ∈ reading.declared) : context.Calls member := by
  cases kind with
  | inert => cases found
  | loop =>
      cases found
      cases inside
  | write =>
      simp only [read] at found
      split at found
      · next assignment parts =>
        cases found
        have covers := assignment.covers_members context.memberStem
        exact ⟨_, by simp [stems], covers.exists_called (Assignment.readable_of_read? parts) inside⟩
      · cases found
        cases inside
  | copy =>
      simp only [read] at found
      split at found
      · next copy parts =>
        cases found
        have itself : member = copy.member context.memberStem := by
          simp only [Copy.reading] at inside
          split at inside <;> exact List.mem_singleton.mp inside
        rw [itself]
        exact ⟨_, by simp [stems], _, Copy.readable_of_read parts,
          (copy.standsAt_member context.memberStem).called⟩
      · cases found
        cases inside
  | call =>
      cases found
      have readable := Addend.readable_ofText line.characters
      simp only [Call.reading] at inside
      split at inside
      · cases inside
      · split at inside
        · next subroutine known =>
          rw [List.mem_singleton.mp inside]
          have listed := List.mem_map_of_mem (f := Subroutine.targetType)
            (List.mem_of_find?_eq_some known)
          exact ⟨_, List.mem_append_right _ listed, _, readable,
            ((Call.ofLine line).standsAt_expanded subroutine).called⟩
        · rw [List.mem_singleton.mp inside]
          exact ⟨_, by simp [stems], _, readable,
            ((Call.ofLine line).standsAt_placeholder _).called⟩

theorem calls_of_declaredBy {line : SourceLine} {next : Option SourceLine}
    (found : member ∈ context.declaredBy line next) : context.Calls member := by
  unfold declaredBy at found
  split at found
  · cases found
  · split at found
    · next reading log reads => exact calls_of_read reads found
    · cases found

/-! ## Runs -/

variable (start) in
theorem calls_padding (tally : Tally) (gap : Nat) (afterString : Bool) :
    start.Calls (tally.padding gap afterString) :=
  ⟨"Padding", by simp [stems], .literal tally.cursor.stop, .literal _, rfl, rfl⟩

variable (start) in
theorem calls_endPadding (context : Context) (declared : Size) :
    start.Calls (context.endPadding declared) :=
  ⟨"EndPadding", by simp [stems], .literal _, .literal _, rfl, rfl⟩

theorem calls_of_mem_placeAll {declared : List Member}
    (called : ∀ other ∈ declared, start.Calls other)
    (inside : member ∈ Item.members (context.placeAll declared).items) : start.Calls member := by
  induction declared generalizing context with
  | nil => cases inside
  | cons first rest ih =>
      obtain ⟨here, later⟩ := List.forall_mem_cons.mp called
      simp only [placeAll, place, Item.members_append, List.mem_append] at inside
      rcases inside with (before | itself) | behind
      · rw [Tally.eq_padding_of_mem_reconcile before]
        exact start.calls_padding _ _ _
      · rw [show member = first from List.mem_singleton.mp itself]
        exact here
      · exact ih later behind

theorem calls_of_mem_step (same : start.SameSettings context) {line : SourceLine}
    {next : Option SourceLine}
    (inside : member ∈ Item.members (context.step line next).report.items) :
    start.Calls member := by
  rw [members_step] at inside
  exact calls_of_mem_placeAll
    (fun _ found => (calls_of_declaredBy found).of_sameSettings same) inside

/-- All members of a body, paddings included, are called by the context before it. -/
theorem calls_of_mem_transcribe (same : start.SameSettings context) {lines : List SourceLine}
    (inside : member ∈ Item.members (context.transcribe lines).items) : start.Calls member := by
  induction lines generalizing context with
  | nil => cases inside
  | cons line rest ih =>
      rw [members_transcribe_cons, List.mem_append] at inside
      rcases inside with here | later
      · exact calls_of_mem_step same here
      · exact ih (same.trans (context.sameSettings_after [line] rest)) later

end Context

/-- All members of a class are called by the context that its directives leave. -/
theorem calls_of_reconstruct {style : Style} {heuristics : Heuristics}
    {fingerprint : String → UInt32} {lines : List SourceLine} {stub : Stub}
    (returns : (reconstruct style heuristics fingerprint lines).result = .ok (some stub)) :
    ∀ member ∈ Item.members stub.body, (style.start heuristics lines).Calls member := by
  obtain ⟨signature, body, comes⟩ := exists_comesFrom_of_reconstruct returns
  obtain ⟨header, -, rfl⟩ := comes.transcribed
  intro member inside
  rw [Stub.members_ofTranscript, List.mem_append] at inside
  rcases inside with line | ending
  · exact Context.calls_of_mem_transcribe (.refl _) line
  · obtain ⟨declared, -, rfl⟩ := Context.exists_endPadding_of_mem ending
    exact Context.calls_endPadding _ _ declared

/-- The ends of names tell addends apart, offsets and tokens alike, so that members called by one
stem have different names at different places.  All members of a class are called by a stem and an
addend that can be read. -/
theorem suffix_eq_iff_and_name_ne_of_called :
    (∀ left right : Addend, left.suffix = right.suffix ↔ left = right) ∧
      (∀ (first second : Member) (stem : String) (left right : Addend),
        first.Called stem left → second.Called stem right → first.offset ≠ second.offset →
          first.name ≠ second.name) ∧
      ∀ (style : Style) (heuristics : Heuristics) (fingerprint : String → UInt32)
        (lines : List SourceLine) (stub : Stub),
        (reconstruct style heuristics fingerprint lines).result = .ok (some stub) →
          ∀ member ∈ Item.members stub.body, (style.start heuristics lines).Calls member := by
  refine ⟨fun left right => ⟨Addend.suffix_injective, congrArg Addend.suffix⟩, ?_, ?_⟩
  · intro first second stem left right first_called second_called apart same
    exact apart (first_called.offset_eq second_called same)
  · intro style heuristics fingerprint lines stub returns
    exact calls_of_reconstruct returns

/-- Eight bytes in front of the structure and a token that looks like it have different names, and
so has the first offset of all. -/
theorem name_ne_of_called_negative :
    let lines := SourceLine.ofTexts
      ["void f(int a1)", "  *(_DWORD *)(a1 - 0x8000000000000000) = v2;",
        "  *(_DWORD *)(a1 - 8) = v2;", "  *(_DWORD *)(a1 + neg8) = v2;"]
    ∃ stub, (reconstruct {} {} Fingerprint.ofText lines).result = .ok (some stub) ∧
      (∀ member ∈ Item.members stub.body, (Style.start {} {} lines).Calls member) ∧
      ∃ least ∈ Item.members stub.body, ∃ before ∈ Item.members stub.body,
        ∃ symbolic ∈ Item.members stub.body,
          least.Called "Unknown" (.literal (Offset.wrap Offset.minimum)) ∧
          before.Called "Unknown" (.literal (Offset.wrap (-8))) ∧
          symbolic.Called "Unknown" (.symbolic "neg8") ∧
          least.name ≠ before.name ∧ before.name ≠ symbolic.name := by
  intro lines
  have check : (reconstruct {} {} Fingerprint.ofText lines).result.toOption.join.any
      (fun stub : Stub => decide (
        ∃ least ∈ Item.members stub.body, ∃ before ∈ Item.members stub.body,
          ∃ symbolic ∈ Item.members stub.body,
            least.Called "Unknown" (.literal (Offset.wrap Offset.minimum)) ∧
            before.Called "Unknown" (.literal (Offset.wrap (-8))) ∧
            symbolic.Called "Unknown" (.symbolic "neg8") ∧
            least.offset ≠ before.offset ∧ before.offset ≠ symbolic.offset)) = true := by
    decide +kernel
  obtain ⟨stub, found, meets⟩ := (Option.any_eq_true _ _).mp check
  obtain ⟨least, least_mem, before, before_mem, symbolic, symbolic_mem, least_called, before_called,
    symbolic_called, first_apart, second_apart⟩ := of_decide_eq_true meets
  have returns := eq_ok_of_toOption found
  obtain ⟨-, tells, calls⟩ := suffix_eq_iff_and_name_ne_of_called
  exact ⟨stub, returns, calls {} {} _ lines stub returns, least, least_mem, before, before_mem,
    symbolic, symbolic_mem, least_called, before_called, symbolic_called,
    tells least before "Unknown" _ _ least_called before_called first_apart,
    tells before symbolic "Unknown" _ _ before_called symbolic_called second_apart⟩

end LayoutRecovery
