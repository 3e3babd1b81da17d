import LayoutRecovery.Proofs.Directive.Switch
import LayoutRecovery.Proofs.Transcript.Locality
import LayoutRecovery.Proofs.Transcript.Suppression

/-!
# Where a switch stands

All directives are carried out before the body is read, so that a switch has the same effect
wherever it stands.  As a line of the body it is passed over; but the line in front of it then looks
ahead to the switch instead of the line behind.  Only two kinds of lines look ahead: a string copy,
for its terminator, and a call of an unknown subroutine, for its size.
-/

namespace LayoutRecovery

/-- Transcripts that declare the same members and lead to the same context, apart from the mark on
the next line. -/
structure Transcript.Agrees (left right : Transcript) : Prop where
  members : Item.members left.items = Item.members right.items
  context : left.context.settle = right.context.settle

namespace Context

/-! ## What a line does without its look ahead -/

theorem settle_step (context : Context) (line : SourceLine) (next : Option SourceLine) :
    (context.step line next).context.settle =
      { (context.settle.placeAll (context.declaredBy line next)).context with
        previousLine := if context.declaredBy line next = [] then context.previousLine
          else some line.text } := by
  have places := context.step_places line next
  rw [context_placeAll]
  apply Context.ext
  · exact places.tally
  · exact places.settings.subroutines
  · exact places.settings.heuristics
  · exact places.settings.declaredSize
  · exact places.settings.className
  · exact places.settings.memberStem
  · exact context.previousLine_step line next
  · rfl

theorem context_step_of_silent {context : Context} {line : SourceLine} {next : Option SourceLine}
    (silent : context.declaredBy line next = []) :
    (context.step line next).context = context.settle := by
  have unmarked : (context.step line next).context.suppressesNext = false := by
    rw [← Bool.not_eq_true, suppressesNext_step_iff]
    exact fun announced => announced.2.2.2 silent
  have settled := context.settle_step line next
  rw [silent, if_pos rfl, settle_of_unmarked unmarked] at settled
  exact settled

theorem members_step_of_silent {context : Context} {line : SourceLine} {next : Option SourceLine}
    (silent : context.declaredBy line next = []) :
    Item.members (context.step line next).report.items = [] := by
  rw [members_step, silent]
  rfl

theorem declaredBy_of_passed {context : Context} {line : SourceLine} {next : Option SourceLine}
    (passed : context.suppressesNext = true ∨ Directive.isDirective line.characters = true) :
    context.declaredBy line next = [] := by
  rw [declaredBy, if_pos (by simpa using passed)]

/-- A line that is taken as a call of an unknown subroutine. -/
structure TakesCall (context : Context) (line : SourceLine) : Prop where
  unmarked : context.suppressesNext = false
  body : Directive.isDirective line.characters = false
  calls : LineKind.ofLine line.characters = .call
  counts : (context.heuristics.skipCaseCalls && LineKind.isCaseCall line.characters) = false
  unknown : context.subroutines.find? line.characters = none

/-- What a line declares depends on the line behind it only if it is a call of an unknown
subroutine, and then on the distance to what that line writes. -/
theorem declaredBy_congr {context : Context} {line : SourceLine} {next other : Option SourceLine}
    (measured : context.TakesCall line →
      Call.distance? (Call.ofLine line).target.offset next =
        Call.distance? (Call.ofLine line).target.offset other) :
    context.declaredBy line next = context.declaredBy line other := by
  unfold declaredBy
  split
  · rfl
  · next spoken =>
    rw [Bool.not_eq_true, Bool.or_eq_false_iff] at spoken
    cases kind : LineKind.ofLine line.characters with
    | inert => rfl
    | loop => rfl
    | write => rfl
    | copy =>
        simp only [read]
        cases Copy.read line.characters with
        | error found => rfl
        | ok copy =>
            simp only [Copy.reading]
            split <;> split <;> rfl
    | call =>
        simp only [read, Call.reading]
        split
        · rfl
        · next counts =>
          split
          · rfl
          · next unknown =>
            rw [measured ⟨spoken.1, spoken.2, kind, Bool.eq_false_iff.mpr counts, unknown⟩]

end Context

/-! ## Bodies -/

namespace Transcript.Agrees

open Context

theorem refl (transcript : Transcript) : transcript.Agrees transcript :=
  ⟨rfl, rfl⟩

theorem trans {first second third : Transcript} (earlier : first.Agrees second)
    (later : second.Agrees third) : first.Agrees third :=
  ⟨earlier.members.trans later.members, earlier.context.trans later.context⟩

theorem cons {context other : Context} {line twin : SourceLine} {rest others : List SourceLine}
    (first : Item.members (context.step line rest.head?).report.items =
      Item.members (other.step twin others.head?).report.items)
    (later : ((context.step line rest.head?).context.transcribe rest).Agrees
      ((other.step twin others.head?).context.transcribe others)) :
    (context.transcribe (line :: rest)).Agrees (other.transcribe (twin :: others)) where
  members := by rw [members_transcribe_cons, members_transcribe_cons, first, later.members]
  context := later.context

/-- A line that declares nothing can be left out behind it. -/
theorem cons_silent {context other : Context} {line : SourceLine} {rest others : List SourceLine}
    (silent : context.declaredBy line rest.head? = [])
    (later : (context.settle.transcribe rest).Agrees (other.transcribe others)) :
    (context.transcribe (line :: rest)).Agrees (other.transcribe others) where
  members := by
    rw [members_transcribe_cons, members_step_of_silent silent, context_step_of_silent silent]
    exact later.members
  context := by
    have behind : (context.transcribe (line :: rest)).context =
        ((context.step line rest.head?).context.transcribe rest).context := rfl
    rw [behind, context_step_of_silent silent]
    exact later.context

/-- A mark on the next line plays no part if that line would not declare anything. -/
theorem settle (context : Context) (lines : List SourceLine)
    (silent : ∀ line rest, lines = line :: rest → context.suppressesNext = true →
      context.settle.declaredBy line rest.head? = []) :
    (context.settle.transcribe lines).Agrees (context.transcribe lines) := by
  cases marked : context.suppressesNext with
  | false =>
      rw [settle_of_unmarked marked]
      exact refl _
  | true =>
      cases lines with
      | nil => exact ⟨rfl, rfl⟩
      | cons line rest =>
          have nothing := silent line rest rfl marked
          refine cons ?_ ?_
          · rw [members_step_of_silent nothing,
              members_step_of_silent (declaredBy_of_passed (.inl marked))]
          · rw [context_step_of_silent nothing,
              context_step_of_silent (declaredBy_of_passed (.inl marked))]
            exact refl _

end Transcript.Agrees

namespace Context

/-- Lines of a body whose last one looks ahead to the line behind it, to some effect: that line is
passed over as a terminator although it would declare members, or it gives a call its size. -/
inductive Binds (start : Context) (front back : List SourceLine) : Prop
  | terminator {line : SourceLine} {rest : List SourceLine} (behind : back = line :: rest)
      (awaited : (start.after front back).suppressesNext = true)
      (declares : (start.after front back).settle.declaredBy line rest.head? ≠ [])
  | size {earlier : List SourceLine} {line next : SourceLine} {rest : List SourceLine} {size : Size}
      (ahead : front = earlier ++ [line]) (behind : back = next :: rest)
      (takes : (start.after earlier (line :: back)).TakesCall line)
      (sized : Call.distance? (Call.ofLine line).target.offset (some next) = some size)

theorem Binds.cons {context : Context} {line : SourceLine} {front back : List SourceLine}
    (binds : (context.step line (front ++ back).head?).context.Binds front back) :
    context.Binds (line :: front) back := by
  cases binds with
  | terminator behind awaited declares => exact .terminator behind awaited declares
  | @size earlier last next rest size ahead behind takes sized =>
      subst ahead
      have shape : earlier ++ [last] ++ back = earlier ++ last :: back := by simp
      rw [shape] at takes
      exact .size (List.cons_append ..).symm behind takes sized

variable {directive : SourceLine}

/-- In front of a switch a call of an unknown subroutine finds no size. -/
theorem distance?_switch (switch : Directive.IsSwitch directive.characters) (offset : Offset) :
    Call.distance? offset (some directive) = none := by
  simp only [Call.distance?, Option.bind_some, switch.writeTarget?]

/-- A switch between two lines changes nothing if the first one does not look ahead to the second
one to any effect. -/
theorem agrees_insert_behind (switch : Directive.IsSwitch directive.characters)
    {context : Context} {line : SourceLine} {back : List SourceLine}
    (free : ¬ context.Binds [line] back) :
    (context.transcribe (line :: directive :: back)).Agrees
      (context.transcribe (line :: back)) := by
  have declared : context.declaredBy line (some directive) =
      context.declaredBy line back.head? := by
    refine declaredBy_congr fun takes => ?_
    rw [distance?_switch switch]
    cases back with
    | nil => rfl
    | cons next rest =>
        cases sized : Call.distance? (Call.ofLine line).target.offset (some next) with
        | none => exact sized.symm
        | some size => exact absurd (.size (List.nil_append [line]).symm rfl takes sized) free
  have contexts : (context.step line (some directive)).context =
      (context.step line back.head?).context.settle := by
    have unmarked : (context.step line (some directive)).context.suppressesNext = false := by
      rw [← Bool.not_eq_true, suppressesNext_step_iff, Option.any_some, switch.not_isZeroWrite]
      rintro ⟨-, zero, -⟩
      cases zero
    rw [settle_step, ← declared, ← settle_step, settle_of_unmarked unmarked]
  refine Transcript.Agrees.cons ?_ ?_
  · rw [List.head?_cons, members_step, declared, ← members_step]
  · rw [List.head?_cons, contexts]
    refine Transcript.Agrees.cons_silent (declaredBy_of_passed (.inr switch.isDirective)) ?_
    refine Transcript.Agrees.settle (context.step line back.head?).context back
      fun next rest behind awaited => ?_
    by_contra declares
    exact free (.terminator behind awaited declares)

/-- A switch anywhere in a body changes nothing, unless it parts a line from the one that it looks
ahead to. -/
theorem agrees_insert (switch : Directive.IsSwitch directive.characters) {context : Context}
    {front back : List SourceLine} (unmarked : context.suppressesNext = false)
    (free : ¬ context.Binds front back) :
    (context.transcribe (front ++ directive :: back)).Agrees
      (context.transcribe (front ++ back)) := by
  cases front with
  | nil =>
      refine Transcript.Agrees.cons_silent (declaredBy_of_passed (.inr switch.isDirective)) ?_
      rw [settle_of_unmarked unmarked]
      exact .refl _
  | cons line front =>
      clear unmarked
      induction front generalizing context line with
      | nil => exact agrees_insert_behind switch free
      | cons second front ih =>
          refine Transcript.Agrees.cons rfl ?_
          exact ih second fun binds => free binds.cons

end Context

/-! ## Inputs -/

theorem Transcript.Agrees.members_ofTranscript {left right : Transcript}
    (agrees : left.Agrees right) (header other : Header) :
    Item.members (Stub.ofTranscript header left).body =
        Item.members (Stub.ofTranscript other right).body ∧
      (Stub.ofTranscript header left).accumulated =
        (Stub.ofTranscript other right).accumulated := by
  have same := agrees.context
  simp only [Context.settle, Context.mk.injEq] at same
  obtain ⟨tally, -, -, declared, -⟩ := same
  constructor
  · rw [Stub.members_ofTranscript, Stub.members_ofTranscript, agrees.members]
    simp only [Context.closing, Context.endPadding, tally, declared]
  · exact congrArg Tally.accumulated tally

theorem Transcript.agrees_of_texts (context : Context) {left right : List SourceLine}
    (same : left.map SourceLine.text = right.map SourceLine.text) :
    (context.transcribe left).Agrees (context.transcribe right) := by
  obtain ⟨reports, contexts⟩ := context.transcribe_of_texts same
  refine ⟨?_, by rw [contexts]⟩
  exact congrArg Item.members (LineReport.Alike.flatMap_items reports)

variable {style : Style} {heuristics : Heuristics} {fingerprint : String → UInt32}
  {upper lower front back : List String} {signature directive : String}

/-- Whatever the numbers of its lines, a body with a switch is read like the one without it. -/
theorem Context.agrees_insert_texts (switch : Directive.IsSwitch directive.toList)
    {context : Context} (unmarked : context.suppressesNext = false)
    (free : ¬ context.Binds (SourceLine.ofTexts front) (SourceLine.ofTexts back))
    {below above : List SourceLine}
    (below_texts : below.map SourceLine.text = front ++ directive :: back)
    (above_texts : above.map SourceLine.text = front ++ back) :
    (context.transcribe below).Agrees (context.transcribe above) := by
  let line : SourceLine := { index := 0, text := directive }
  have inserted : below.map SourceLine.text =
      (SourceLine.ofTexts front ++ line :: SourceLine.ofTexts back).map SourceLine.text := by
    rw [below_texts, List.map_append, List.map_cons, SourceLine.map_text_ofTexts,
      SourceLine.map_text_ofTexts]
  have plain : (SourceLine.ofTexts front ++ SourceLine.ofTexts back).map SourceLine.text =
      above.map SourceLine.text := by
    rw [above_texts, List.map_append, SourceLine.map_text_ofTexts, SourceLine.map_text_ofTexts]
  have switches : Directive.IsSwitch line.characters := switch
  exact (Transcript.agrees_of_texts context inserted).trans
    ((agrees_insert switches unmarked free).trans (Transcript.agrees_of_texts context plain))

theorem exists_ofTranscript_of_sound (style : Style) (heuristics : Heuristics)
    (fingerprint : String → UInt32) {above back : List String}
    (unsigned : ∀ text ∈ above, ¬ SourceLine.Signs text.toList)
    (signs : SourceLine.Signs signature.toList)
    (sound : Directive.Sound (above ++ signature :: back)) :
    ∃ header body, body.map SourceLine.text = back ∧
      (reconstruct style heuristics fingerprint
        (SourceLine.ofTexts (above ++ signature :: back))).result =
        .ok (some (Stub.ofTranscript header ((style.start heuristics
          (SourceLine.ofTexts (above ++ signature :: back))).transcribe body))) := by
  obtain ⟨line, body, signed, -, texts⟩ :=
    Stub.exists_fromSignature_ofTexts back unsigned signs
  exact ⟨_, body, texts, result_reconstruct_eq_some_iff.mpr
    ⟨exists_applyDirectives_ofTexts_iff.mpr sound, line, body, signed, rfl⟩⟩

/-- A switch behind the signature declares the same members and the same size as one in front of it,
wherever it stands, unless it parts a line of the body from the one that it looks ahead to. -/
theorem declaresAlike_of_insert {stub : Stub}
    (returns : (reconstruct style heuristics fingerprint
      (SourceLine.ofTexts (upper ++ lower ++ signature :: (front ++ back)))).result =
        .ok (some stub))
    (unsigned : ∀ text ∈ upper ++ lower, ¬ SourceLine.Signs text.toList)
    (signs : SourceLine.Signs signature.toList)
    (switch : Directive.IsSwitch directive.toList)
    (free : ¬ (style.start heuristics (SourceLine.ofTexts
      (upper ++ directive :: lower ++ signature :: (front ++ back)))).Binds
        (SourceLine.ofTexts front) (SourceLine.ofTexts back)) :
    ∃ above below,
      (reconstruct style heuristics fingerprint (SourceLine.ofTexts
        (upper ++ directive :: lower ++ signature :: (front ++ back)))).result =
          .ok (some above) ∧
      (reconstruct style heuristics fingerprint (SourceLine.ofTexts
        (upper ++ lower ++ signature :: (front ++ directive :: back)))).result =
          .ok (some below) ∧
      Item.members below.body = Item.members above.body ∧
      below.accumulated = above.accumulated := by
  have sound := exists_applyDirectives_ofTexts_iff.mp (result_reconstruct_eq_some_iff.mp returns).1
  have above_split : upper ++ directive :: lower ++ signature :: (front ++ back) =
      upper ++ directive :: (lower ++ signature :: (front ++ back)) := by simp
  have below_split : upper ++ lower ++ signature :: (front ++ directive :: back) =
      (upper ++ lower ++ signature :: front) ++ directive :: back := by simp
  have above_rest : upper ++ (lower ++ signature :: (front ++ back)) =
      upper ++ lower ++ signature :: (front ++ back) := by simp
  have below_rest : (upper ++ lower ++ signature :: front) ++ back =
      upper ++ lower ++ signature :: (front ++ back) := by simp
  have above_sound :
      Directive.Sound (upper ++ directive :: lower ++ signature :: (front ++ back)) := by
    rw [above_split, Directive.sound_insert_iff switch, above_rest]
    exact sound
  have below_sound :
      Directive.Sound (upper ++ lower ++ signature :: (front ++ directive :: back)) := by
    rw [below_split, Directive.sound_insert_iff switch, below_rest]
    exact sound
  have start := start_insert_congr style heuristics switch (below_rest.trans above_rest.symm)
    (above_rest.symm ▸ sound)
  rw [← below_split, ← above_split] at start
  have above_unsigned : ∀ text ∈ upper ++ directive :: lower, ¬ SourceLine.Signs text.toList := by
    have foreign : ¬ SourceLine.Signs directive.toList := by
      rw [← LineKind.isSignature_iff, switch.not_isSignature]
      exact Bool.noConfusion
    simp only [List.forall_mem_append, List.forall_mem_cons] at unsigned ⊢
    exact ⟨unsigned.1, foreign, unsigned.2⟩
  obtain ⟨above_header, above_body, above_texts, above_returns⟩ :=
    exists_ofTranscript_of_sound style heuristics fingerprint above_unsigned signs above_sound
  obtain ⟨below_header, below_body, below_texts, below_returns⟩ :=
    exists_ofTranscript_of_sound style heuristics fingerprint unsigned signs below_sound
  rw [start] at below_returns
  have agrees := Context.agrees_insert_texts switch (suppressesNext_applyDirectives ..) free
    below_texts above_texts
  exact ⟨_, _, above_returns, below_returns, agrees.members_ofTranscript _ _⟩

/-- A switch between two writes. -/
theorem declaresAlike_of_insert_between :
    let front := ["  *(_DWORD *)(a1 + 4) = v2;"]
    let back := ["  sub_2(a1 + 8);", "  *(_BYTE *)(a1 + 12) = v3;"]
    let above := SourceLine.ofTexts (" #logsize" :: "void sub_1(a1)" :: (front ++ back))
    let below := SourceLine.ofTexts ("void sub_1(a1)" :: (front ++ " #logsize" :: back))
    (∃ stub, (reconstruct {} {} (fun _ => 0)
      (SourceLine.ofTexts ("void sub_1(a1)" :: (front ++ back)))).result = .ok (some stub)) ∧
    SourceLine.Signs "void sub_1(a1)".toList ∧ Directive.IsSwitch " #logsize".toList ∧
    ¬ (Style.start {} {} above).Binds (SourceLine.ofTexts front) (SourceLine.ofTexts back) ∧
    ∃ first second, (reconstruct {} {} (fun _ => 0) above).result = .ok (some first) ∧
      (reconstruct {} {} (fun _ => 0) below).result = .ok (some second) ∧
      Item.members second.body = Item.members first.body ∧
      second.accumulated = first.accumulated := by
  intro front back above below
  have returned : (reconstruct {} {} (fun _ => 0)
      (SourceLine.ofTexts ("void sub_1(a1)" :: (front ++ back)))).result.toOption.join.isSome =
        true := by decide +kernel
  obtain ⟨stub, found⟩ := Option.isSome_iff_exists.mp returned
  have returns := eq_ok_of_toOption found
  have signs : SourceLine.Signs "void sub_1(a1)".toList :=
    LineKind.isSignature_iff.mp (by decide +kernel)
  have switch : Directive.IsSwitch " #logsize".toList := ⟨.reportSizes, rfl, by decide +kernel⟩
  have free : ¬ (Style.start {} {} above).Binds (SourceLine.ofTexts front)
      (SourceLine.ofTexts back) := by
    rintro (⟨-, awaited, -⟩ | ⟨ahead, -, takes, -⟩)
    · exact absurd awaited (by decide +kernel)
    · obtain ⟨-, same⟩ := List.append_inj' (show [] ++ SourceLine.ofTexts front = _ from ahead) rfl
      have kind := takes.calls
      rw [← List.singleton_inj.mp same] at kind
      exact absurd kind (by decide +kernel)
  have alike := @declaresAlike_of_insert {} {} (fun _ => 0) [] [] front back _ _ stub returns
    (by simp) signs switch free
  exact ⟨⟨stub, returns⟩, signs, switch, free, alike⟩

/-- A switch between a copy and its terminator makes the terminator a write, and one between a call
and the write that sizes it takes the size away: the members differ already in their sizes. -/
theorem members_depend_on_switch_place :
    let sizes := fun texts : List String =>
      (reconstruct {} {} (fun _ => 0) (SourceLine.ofTexts texts)).result.toOption.join.map
        fun stub => (Item.members stub.body).map fun member => member.size.toNat
    let copy := "  strncpy(a1 + 0, \"abc\", 0x10ui64);"
    let terminator := "  *(_BYTE *)(a1 + 15) = 0;"
    let call := "  sub_2(a1 + 8);"
    let write := "  *(_DWORD *)(a1 + 24) = v2;"
    Directive.IsSwitch "#logsize".toList ∧
      sizes ["#logsize", "void sub_1(a1)", copy, terminator] = some [16] ∧
      sizes ["void sub_1(a1)", copy, "#logsize", terminator] = some [16, 1] ∧
      sizes ["#logsize", "void sub_1(a1)", call, write] = some [8, 16, 4] ∧
      sizes ["void sub_1(a1)", call, "#logsize", write] = some [8, 0, 16, 4] := by
  intro sizes copy terminator call write
  exact ⟨⟨.reportSizes, rfl, by decide +kernel⟩, by decide +kernel, by decide +kernel,
    by decide +kernel, by decide +kernel⟩

end LayoutRecovery
