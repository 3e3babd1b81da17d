import LayoutRecovery.Proofs.Directive.Instruction
import LayoutRecovery.Proofs.Placement.Agreement

/-!
# Calls of declared subroutines

Whatever else a context went through, it knows the subroutines that were declared up to then.  A
call is expanded if one of their names occurs in its line: the name that was declared first among
those that occur is taken for what it was declared as last.  Only a call without any such name looks
at the line behind it.
-/

namespace LayoutRecovery

namespace Context

/-- A context that is reached while some subroutines are declared, in order. -/
inductive Reached : List Subroutine → Context → Prop
  | initial (heuristics : Heuristics) (memberStem : String) :
      Reached [] (initial heuristics memberStem)
  | registered {declared : List Subroutine} {context : Context} (reached : Reached declared context)
      (subroutine : Subroutine) :
      Reached (declared ++ [subroutine]) (context.register subroutine)
  | instructed {declared : List Subroutine} {context : Context} (reached : Reached declared context)
      (directive : Directive) :
      Reached (declared ++ directive.subroutine?.toList) (context.apply directive)
  | switched {declared : List Subroutine} {context : Context} (reached : Reached declared context)
      (heuristic : Heuristic) (on : Bool) :
      Reached declared (context.setHeuristic heuristic on)
  | moved {declared : List Subroutine} {context : Context} (reached : Reached declared context)
      (offset : Offset) (size : Size) :
      Reached declared (context.moveTo offset size)
  | emitted {declared : List Subroutine} {context : Context} (reached : Reached declared context)
      {kind : LineKind} {line : SourceLine} {next : Option SourceLine} {step : EmissionStep}
      (emits : context.emit kind line next = some step) :
      Reached declared step.context
  | stepped {declared : List Subroutine} {context : Context} (reached : Reached declared context)
      (line : SourceLine) (next : Option SourceLine) :
      Reached declared (context.step line next).context

variable {declared : List Subroutine} {context : Context}

/-- Only declarations change the table of subroutines. -/
theorem Reached.lists (reached : Reached declared context) :
    SubroutineTable.Lists declared context.subroutines := by
  induction reached with
  | initial heuristics memberStem => exact SubroutineTable.lists_foldl_register []
  | registered _ subroutine ih => exact ih.register subroutine
  | instructed _ directive ih =>
      cases directive with
      | subroutine known => exact ih.register known
      | _ => exact (List.append_nil _).symm ▸ ih
  | switched _ heuristic on ih => exact ih
  | moved _ offset size ih => exact ih
  | emitted _ emits ih =>
      obtain ⟨-, -, frames⟩ := (emit_reconciles ..).2 _ emits
      rw [frames.settings.subroutines]
      exact ih
  | stepped _ line next ih =>
      rw [(step_places ..).settings.subroutines]
      exact ih

/-- A step that declares one member, below an empty line and what reconciling it turns up. -/
structure PlacesBelowBlank (context : Context) (member : Member) (step : EmissionStep) : Prop where
  emission : step.emission =
    .members (.blank :: ((context.reconcile member.offset).items ++ [.member member]))
  declared : Item.ordinary step.emission.items = [member]
  cursor : step.context.tally.cursor = ⟨member.offset, member.size⟩

theorem emit_call_of_reading {line : SourceLine} {next : Option SourceLine} {member : Member}
    (taken : Call.reading context line next = .members [.blank] [member]) :
    context.emit .call line next = some (context.perform line (.members [.blank] [member])) := by
  rw [emit, read, taken]
  rfl

theorem placesBelowBlank_perform (context : Context) (line : SourceLine) {member : Member}
    (matters : member.ignored = false) :
    context.PlacesBelowBlank member (context.perform line (.members [.blank] [member])) where
  emission := by simp [perform, placeAll, place]
  declared := by
    have matter : ∀ other ∈ [member], other.ignored = false := by simpa using matters
    rw [perform, Emission.items, Item.ordinary_append, context.ordinary_placeAll matter]
    rfl
  cursor := rfl

/-- The member that a subroutine makes of a call. -/
structure Expands (subroutine : Subroutine) (line : SourceLine) (member : Member) : Prop where
  name : member.name = subroutine.targetType ++ (Addend.ofText line.characters).suffix
  offset : member.offset = (Addend.ofText line.characters).offset
  type : member.type = .named subroutine.targetType
  size : member.size = subroutine.size

/-- After any declarations, whatever happened between them, a call that is not left out is expanded
by the last declaration of the name that was declared first among the names in its line, whatever
line stands behind it.  With no declared name in the line it stands for bytes up to the place that
the next line writes to. -/
theorem expands_of_reached (reached : Reached declared context) {line : SourceLine}
    (kept : (context.heuristics.skipCaseCalls && LineKind.isCaseCall line.characters) = false) :
    (∀ first,
      declared.find? (fun known => Text.occursIn known.name.toList line.characters) = some first →
        ∃ last step member, SubroutineTable.latest? declared first.name = some last ∧
          (∀ next, context.emit .call line next = some step) ∧
          context.PlacesBelowBlank member step ∧ Expands last line member) ∧
    ((∀ known ∈ declared, Text.occursIn known.name.toList line.characters = false) →
      ∀ next, ∃ step, context.emit .call line next = some step ∧
        context.PlacesBelowBlank
          ((Call.ofLine line).placeholder (Call.distance? (Call.ofLine line).target.offset next))
          step) := by
  have table := reached.lists.find?_eq line.characters
  have matters : ∀ subroutine, ((Call.ofLine line).expanded subroutine).ignored = false :=
    fun subroutine => ((Call.ofLine line).standsAt_expanded subroutine).ordinary
  have fills : ∀ size, ((Call.ofLine line).placeholder size).ignored = false :=
    fun size => ((Call.ofLine line).standsAt_placeholder size).ordinary
  constructor
  · intro first earliest
    rw [earliest, Option.bind_some] at table
    obtain ⟨last, latest⟩ : ∃ last, SubroutineTable.latest? declared first.name = some last :=
      SubroutineTable.exists_latest? (List.mem_of_find?_eq_some earliest)
    rw [latest] at table
    have taken : ∀ next, Call.reading context line next =
        .members [.blank] [(Call.ofLine line).expanded last] := by
      intro next
      simp only [Call.reading, kept, Bool.false_eq_true, if_false, table]
    exact ⟨last, _, _, latest, fun next => emit_call_of_reading (taken next),
      context.placesBelowBlank_perform line (matters last), rfl, rfl, rfl, rfl⟩
  · intro unknown next
    have nothing : declared.find? (fun known => Text.occursIn known.name.toList line.characters) =
        none := List.find?_eq_none.mpr fun known inside => by simp [unknown known inside]
    rw [nothing, Option.bind_none] at table
    have taken : Call.reading context line next = .members [.blank] [(Call.ofLine line).placeholder
        (Call.distance? (Call.ofLine line).target.offset next)] := by
      simp only [Call.reading, kept, Bool.false_eq_true, if_false, table]
    exact ⟨_, emit_call_of_reading taken, context.placesBelowBlank_perform line (fills _)⟩

/-- One name is part of the other, was declared before it, and then again with another type. -/
theorem expands_of_reached_part :
    let before := ((initial {} "Unknown").register ⟨"sub_1", "int", ⟨4⟩⟩).register
      ⟨"sub_14", "char", ⟨1⟩⟩
    let again := (before.step ⟨0, "  sub_14(v1 + 8);"⟩ none).context
    let context := again.register ⟨"sub_1", "long", ⟨8⟩⟩
    let line : SourceLine := ⟨1, "  sub_14(v1 + 16);"⟩
    ∃ step member, (∀ next, context.emit .call line next = some step) ∧
      context.PlacesBelowBlank member step ∧ member.name = "long10" ∧
      member.type = .named "long" ∧ member.size = ⟨8⟩ ∧
      step.context.tally.cursor = ⟨Offset.wrap 16, ⟨8⟩⟩ := by
  intro before again context line
  have reached : Reached [⟨"sub_1", "int", ⟨4⟩⟩, ⟨"sub_14", "char", ⟨1⟩⟩, ⟨"sub_1", "long", ⟨8⟩⟩]
      context :=
    ((((Reached.initial {} "Unknown").registered ⟨"sub_1", "int", ⟨4⟩⟩).registered
      ⟨"sub_14", "char", ⟨1⟩⟩).stepped ⟨0, "  sub_14(v1 + 8);"⟩ none).registered
        ⟨"sub_1", "long", ⟨8⟩⟩
  have kept :
      (context.heuristics.skipCaseCalls && LineKind.isCaseCall line.characters) = false := by
    decide +kernel
  have first : List.find? (fun known : Subroutine =>
      Text.occursIn known.name.toList line.characters)
        [⟨"sub_1", "int", ⟨4⟩⟩, ⟨"sub_14", "char", ⟨1⟩⟩, ⟨"sub_1", "long", ⟨8⟩⟩] =
      some ⟨"sub_1", "int", ⟨4⟩⟩ := by decide +kernel
  obtain ⟨last, step, member, latest, emits, places, expands⟩ :=
    (expands_of_reached reached kept).1 _ first
  obtain rfl : ⟨"sub_1", "long", ⟨8⟩⟩ = last := Option.some.inj latest
  have addend : Addend.ofText line.characters = .literal (Offset.wrap 16) := by decide +kernel
  refine ⟨step, member, emits, places, ?_, expands.type, expands.size, ?_⟩
  · rw [expands.name, addend]
    decide +kernel
  · rw [places.cursor, expands.offset, expands.size, addend]
    rfl

end Context

end LayoutRecovery
