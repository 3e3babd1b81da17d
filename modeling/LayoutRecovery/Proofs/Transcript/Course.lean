import LayoutRecovery.Proofs.Directive.Fault
import LayoutRecovery.Proofs.Placement.Frame
import LayoutRecovery.Stub

/-!
# The course of a reconstruction

A class comes from an input whose directives were all carried out: the lines behind the first
signature are taken one after the other.  The context in which a line is taken is the one that the
lines before it lead to, and its report stands at its place in the transcript.
-/

namespace LayoutRecovery

/-! ## Behind some lines -/

namespace Context

/-- The context behind some lines of a body when others follow. -/
def after (context : Context) : List SourceLine → List SourceLine → Context
  | [], _ => context
  | line :: front, back => (context.step line (front ++ back).head?).context.after front back

theorem after_append (context : Context) (front middle back : List SourceLine) :
    context.after (front ++ middle) back =
      (context.after front (middle ++ back)).after middle back := by
  induction front generalizing context with
  | nil => rfl
  | cons line front ih =>
      rw [List.cons_append, after, after, List.append_assoc]
      exact ih _

theorem after_concat (context : Context) (front : List SourceLine) (line : SourceLine)
    (back : List SourceLine) :
    context.after (front ++ [line]) back =
      ((context.after front (line :: back)).step line back.head?).context := by
  rw [after_append]
  rfl

/-- The transcript of a body goes on behind some of its lines as a transcript of the others. -/
theorem exists_reports_transcribe_append (context : Context) (front back : List SourceLine) :
    ∃ reports, reports.length = front.length ∧
      context.transcribe (front ++ back) =
        { reports := reports ++ ((context.after front back).transcribe back).reports
          context := ((context.after front back).transcribe back).context } := by
  induction front generalizing context with
  | nil => exact ⟨[], rfl, rfl⟩
  | cons line front ih =>
      obtain ⟨reports, count, others⟩ := ih (context.step line (front ++ back).head?).context
      refine ⟨(context.step line (front ++ back).head?).report :: reports,
        congrArg (· + 1) count, ?_⟩
      rw [List.cons_append, transcribe, others]
      rfl

/-- The report of a line is that of the step over it behind the lines before it. -/
theorem getElem?_reports_transcribe (context : Context) (front : List SourceLine)
    (line : SourceLine) (back : List SourceLine) :
    (context.transcribe (front ++ line :: back)).reports[front.length]? =
      some ((context.after front (line :: back)).step line back.head?).report := by
  obtain ⟨reports, count, whole⟩ :=
    context.exists_reports_transcribe_append front (line :: back)
  rw [whole, ← count, List.getElem?_append_right (Nat.le_refl _), Nat.sub_self]
  rfl

theorem sameSettings_after (context : Context) (front back : List SourceLine) :
    context.SameSettings (context.after front back) := by
  induction front generalizing context with
  | nil => exact .refl context
  | cons line front ih =>
      have settled : context.SameSettings context.settle := ⟨rfl, rfl, rfl, rfl, rfl⟩
      have places := context.step_places line (front ++ back).head?
      exact (settled.trans places.settings).trans (ih _)

theorem context_transcribe (context : Context) (lines : List SourceLine) :
    (context.transcribe lines).context = context.after lines [] := by
  induction lines generalizing context with
  | nil => rfl
  | cons line rest ih =>
      rw [after, List.append_nil]
      exact ih _

end Context

theorem Context.members_transcribe_cons (context : Context) (line : SourceLine)
    (rest : List SourceLine) :
    Item.members (context.transcribe (line :: rest)).items =
      Item.members (context.step line rest.head?).report.items ++
        Item.members ((context.step line rest.head?).context.transcribe rest).items :=
  Item.members_append ..

/-! ## What members carry along -/

/-- Pieces that report no conflict. -/
def Item.Quiet (items : List Item) : Prop :=
  ∀ conflict, remark (.conflict conflict) ∉ items

/-- Whether a piece reports a conflict. -/
def Item.reportsConflict : Item → Bool
  | remark (.conflict _) => true
  | _ => false

theorem Item.quiet_iff {items : List Item} :
    Quiet items ↔ ∀ item ∈ items, item.reportsConflict = false := by
  constructor
  · intro quiet item found
    cases item with
    | remark comment =>
        cases comment with
        | conflict conflict => exact absurd found (quiet conflict)
        | _ => rfl
    | _ => rfl
  · intro silent conflict found
    exact Bool.noConfusion (silent _ found)

instance (items : List Item) : Decidable (Item.Quiet items) :=
  decidable_of_iff _ Item.quiet_iff.symm

theorem Item.quiet_append {left right : List Item} :
    Quiet (left ++ right) ↔ Quiet left ∧ Quiet right := by
  simp only [Quiet, List.mem_append, not_or]
  exact forall_and

theorem Item.quiet_placements {items : List Item} : Quiet (placements items) ↔ Quiet items := by
  simp only [Quiet, mem_placements_conflict]

/-- A relation between the tallies around some members that goes on over every member placed without
conflict, in any context with the settings of a given one. -/
structure Context.Upholds (start : Context) (relation : Tally → List Member → Tally → Prop) :
    Prop where
  refl : ∀ tally, relation tally [] tally
  trans : ∀ {first second third left right}, relation first left second →
    relation second right third → relation first (left ++ right) third
  place : ∀ {context : Context} {member : Member} {stem : String} {addend : Addend} {bytes : Nat},
    start.SameSettings context → member.StandsAt stem addend bytes → start.Grants stem bytes →
      Item.Quiet (context.place member).items →
        relation context.tally (Item.members (context.place member).items)
          (context.place member).context.tally

namespace Context

variable {start context : Context} {relation : Tally → List Member → Tally → Prop}

theorem conflict?_of_quiet {member : Member} (quiet : Item.Quiet (context.place member).items) :
    context.tally.conflict? member.offset = none := by
  cases found : context.tally.conflict? member.offset with
  | none => rfl
  | some conflict =>
      refine absurd ?_ (quiet conflict)
      simp [Context.place, reconcile, Tally.reconcile, Reconciliation.items, found]

theorem Grants.of_sameSettings {stem : String} {bytes : Nat} (granted : context.Grants stem bytes)
    (same : start.SameSettings context) : start.Grants stem bytes := by
  cases granted with
  | decoded small =>
      rw [same.memberStem]
      exact .decoded small
  | placeholder small => exact .placeholder small
  | expanded known =>
      rw [same.subroutines] at known
      exact .expanded known

theorem Upholds.placeAll (upholds : start.Upholds relation) (same : start.SameSettings context)
    {declared : List Member}
    (granted : ∀ member ∈ declared, ∃ stem addend bytes,
      member.StandsAt stem addend bytes ∧ start.Grants stem bytes)
    (quiet : Item.Quiet (context.placeAll declared).items) :
    relation context.tally (Item.members (context.placeAll declared).items)
      (context.placeAll declared).context.tally := by
  induction declared generalizing context with
  | nil => exact upholds.refl context.tally
  | cons member rest ih =>
      obtain ⟨here, later⟩ := Item.quiet_append.mp quiet
      obtain ⟨stem, addend, bytes, stands, grants⟩ := granted member (by simp)
      have settings : context.SameSettings (context.place member).context :=
        ⟨rfl, rfl, rfl, rfl, rfl⟩
      have others := ih (same.trans settings) (fun other inside => granted other (by simp [inside]))
        later
      rw [Context.placeAll, Item.members_append]
      exact upholds.trans (upholds.place same stands grants here) others

theorem Upholds.step (upholds : start.Upholds relation) (same : start.SameSettings context)
    {line : SourceLine} {next : Option SourceLine}
    (quiet : Item.Quiet (context.step line next).report.items) :
    relation context.tally (Item.members (context.step line next).report.items)
      (context.step line next).context.tally := by
  have places := context.step_places line next
  have settled : start.SameSettings context.settle := same.trans ⟨rfl, rfl, rfl, rfl, rfl⟩
  rw [← Item.quiet_placements, places.items, Item.quiet_placements] at quiet
  have granted : ∀ member ∈ context.declaredBy line next, ∃ stem addend bytes,
      member.StandsAt stem addend bytes ∧ start.Grants stem bytes := by
    intro member inside
    obtain ⟨stem, addend, bytes, stands, grants⟩ := exists_standsAt_of_declaredBy inside
    exact ⟨stem, addend, bytes, stands, grants.of_sameSettings same⟩
  have placed := upholds.placeAll settled granted quiet
  rw [tally_placeAll] at placed
  rw [places.tally, members_step]
  exact placed

/-- What every placed member upholds, the lines of a body uphold together. -/
theorem Upholds.transcribe (upholds : start.Upholds relation) (same : start.SameSettings context)
    {lines : List SourceLine} (quiet : Item.Quiet (context.transcribe lines).items) :
    relation context.tally (Item.members (context.transcribe lines).items)
      (context.transcribe lines).context.tally := by
  induction lines generalizing context with
  | nil => exact upholds.refl context.tally
  | cons line rest ih =>
      obtain ⟨here, later⟩ := Item.quiet_append.mp quiet
      have settings := context.sameSettings_after [line] rest
      have others := ih (same.trans settings) later
      have first := upholds.step same here
      rw [members_transcribe_cons]
      exact upholds.trans first others

end Context

/-! ## From an input to its class -/

/-- The context in which the lines of an input are read. -/
def Style.start (style : Style) (heuristics : Heuristics) (lines : List SourceLine) : Context :=
  ((Context.initial heuristics style.memberStem).applyDirectives lines).context

theorem Stub.members_ofTranscript (header : Header) (transcript : Transcript) :
    Item.members (ofTranscript header transcript).body =
      Item.members transcript.items ++ Item.members transcript.context.closing := by
  simp only [ofTranscript, Item.members_append]
  exact List.append_nil _

theorem Context.exists_endPadding_of_mem {context : Context} {member : Member}
    (inside : member ∈ Item.members context.closing) :
    ∃ declared, Item.members context.closing = [context.endPadding declared] ∧
      member = context.endPadding declared := by
  simp only [closing] at inside ⊢
  split at inside
  · cases inside
  · next declared _ =>
    split at inside
    · next short =>
      refine ⟨declared, ?_, List.mem_singleton.mp inside⟩
      rw [if_pos short]
      rfl
    · split at inside <;> cases inside

/-- A class and the lines that it comes from: a signature and the body behind it. -/
structure Stub.ComesFrom (stub : Stub) (style : Style) (heuristics : Heuristics)
    (lines : List SourceLine) (signature : SourceLine) (body : List SourceLine) : Prop where
  applied : ∃ count,
    ((Context.initial heuristics style.memberStem).applyDirectives lines).result = .ok count
  signed : Stub.fromSignature lines = signature :: body
  transcribed : ∃ header, header.declaredSize = (style.start heuristics lines).declaredSize ∧
    stub = Stub.ofTranscript header ((style.start heuristics lines).transcribe body)

theorem Stub.ComesFrom.mem_lines {stub : Stub} {style : Style} {heuristics : Heuristics}
    {lines : List SourceLine} {signature : SourceLine} {body : List SourceLine}
    (comes : stub.ComesFrom style heuristics lines signature body) {line : SourceLine}
    (inside : line ∈ signature :: body) : line ∈ lines := by
  rw [← comes.signed] at inside
  exact (List.dropWhile_suffix _).subset inside

theorem eq_ok_of_toOption {result : Except MalformedDirective (Option Stub)} {stub : Stub}
    (found : result.toOption.join = some stub) : result = .ok (some stub) := by
  cases result with
  | error error => cases found
  | ok outcome => exact congrArg Except.ok found

section

variable {style : Style} {heuristics : Heuristics} {fingerprint : String → UInt32}
  {lines : List SourceLine}

theorem result_reconstruct_eq_error_iff {error : MalformedDirective} :
    (reconstruct style heuristics fingerprint lines).result = .error error ↔
      ((Context.initial heuristics style.memberStem).applyDirectives lines).result =
        .error error := by
  simp only [reconstruct]
  split
  · next found failed => rw [failed, Except.error.injEq, Except.error.injEq]
  · next count applied =>
    rw [applied]
    split <;> simp

theorem result_reconstruct_eq_none_iff :
    (reconstruct style heuristics fingerprint lines).result = .ok none ↔
      (∃ count, ((Context.initial heuristics style.memberStem).applyDirectives lines).result =
        .ok count) ∧ Stub.fromSignature lines = [] := by
  simp only [reconstruct]
  split
  · next found failed => simp [failed]
  · next count applied =>
    split
    · next unsigned => simp [applied, unsigned]
    · next signature body signed => simp [signed]

/-- A returned class is made from the context that the directives have left and the lines from the
first signature on. -/
theorem result_reconstruct_eq_some_iff {stub : Stub} :
    (reconstruct style heuristics fingerprint lines).result = .ok (some stub) ↔
      (∃ count, ((Context.initial heuristics style.memberStem).applyDirectives lines).result =
        .ok count) ∧
      ∃ signature body, Stub.fromSignature lines = signature :: body ∧
        stub = Stub.ofTranscript
          (Header.make style fingerprint (style.start heuristics lines) lines signature)
          ((style.start heuristics lines).transcribe body) := by
  simp only [reconstruct]
  split
  · next found failed => simp [failed]
  · next count applied =>
    split
    · next unsigned => simp [unsigned]
    · next signature body signed =>
      constructor
      · intro returned
        exact ⟨⟨count, applied⟩, signature, body, signed,
          (Option.some.inj (Except.ok.inj returned)).symm⟩
      · rintro ⟨-, first, rest, split, rfl⟩
        obtain ⟨rfl, rfl⟩ := List.cons.inj (signed.symm.trans split)
        rfl

theorem exists_comesFrom_of_reconstruct {stub : Stub}
    (returns : (reconstruct style heuristics fingerprint lines).result = .ok (some stub)) :
    ∃ signature body, stub.ComesFrom style heuristics lines signature body := by
  obtain ⟨applied, signature, body, signed, made⟩ := result_reconstruct_eq_some_iff.mp returns
  exact ⟨signature, body, applied, signed, _, rfl, made⟩

theorem eq_ofTranscript_of_reconstruct {stub : Stub}
    (returns : (reconstruct style heuristics fingerprint lines).result = .ok (some stub))
    {signature : SourceLine} {body : List SourceLine}
    (signed : Stub.fromSignature lines = signature :: body) :
    stub = Stub.ofTranscript
      (Header.make style fingerprint (style.start heuristics lines) lines signature)
      ((style.start heuristics lines).transcribe body) := by
  obtain ⟨-, first, rest, split, made⟩ := result_reconstruct_eq_some_iff.mp returns
  obtain ⟨rfl, rfl⟩ := List.cons.inj (signed.symm.trans split)
  exact made

end

/-- What every directive of an input keeps, all of them keep. -/
theorem applyDirectives_induction {motive : Context → Prop} {lines : List SourceLine}
    (step : ∀ line ∈ lines, ∀ directive, Directive.parse line = .ok (some directive) →
      ∀ context, motive context → motive (context.apply directive))
    {context : Context} (holds : motive context) :
    motive (context.applyDirectives lines).context := by
  induction lines generalizing context with
  | nil => exact holds
  | cons line rest ih =>
      have later : ∀ {context}, motive context → motive (context.applyDirectives rest).context :=
        ih fun other inside => step other (List.mem_cons_of_mem line inside)
      simp only [Context.applyDirectives]
      split
      · exact holds
      · exact later holds
      · next directive parsed => exact later (step line (by simp) directive parsed _ holds)

theorem tally_applyDirectives (context : Context) (lines : List SourceLine) :
    (context.applyDirectives lines).context.tally = context.tally :=
  applyDirectives_induction (motive := fun other => other.tally = context.tally)
    (fun _ _ directive _ _ same => by cases directive <;> exact same) rfl

theorem previousLine_applyDirectives (context : Context) (lines : List SourceLine) :
    (context.applyDirectives lines).context.previousLine = context.previousLine :=
  applyDirectives_induction (motive := fun other => other.previousLine = context.previousLine)
    (fun _ _ directive _ _ same => by cases directive <;> exact same) rfl

theorem suppressesNext_applyDirectives (context : Context) (lines : List SourceLine) :
    (context.applyDirectives lines).context.suppressesNext = context.suppressesNext :=
  applyDirectives_induction (motive := fun other => other.suppressesNext = context.suppressesNext)
    (fun _ _ directive _ _ same => by cases directive <;> exact same) rfl

theorem memberStem_applyDirectives (context : Context) (lines : List SourceLine) :
    (context.applyDirectives lines).context.memberStem = context.memberStem :=
  applyDirectives_induction (motive := fun other => other.memberStem = context.memberStem)
    (fun _ _ directive _ _ same => by cases directive <;> exact same) rfl

theorem subroutines_applyDirectives (context : Context) {lines : List SourceLine}
    (undeclared : ∀ line ∈ lines, Keyword.ofLine? line.characters ≠ some .subroutine) :
    (context.applyDirectives lines).context.subroutines = context.subroutines := by
  refine applyDirectives_induction (motive := fun other => other.subroutines = context.subroutines)
    (fun line inside directive parsed _ same => ?_) rfl
  cases directive with
  | subroutine => exact absurd (Directive.ofLine?_of_parse parsed) (undeclared line inside)
  | _ => exact same

theorem exists_parse_of_applyDirectives {context : Context} {lines : List SourceLine} {count : Nat}
    (applied : (context.applyDirectives lines).result = .ok count) {line : SourceLine}
    (inside : line ∈ lines) : ∃ found, Directive.parse line = .ok found := by
  induction lines generalizing context count with
  | nil => cases inside
  | cons first rest ih =>
      simp only [Context.applyDirectives] at applied
      rcases List.mem_cons.mp inside with rfl | later
      · cases parsed : Directive.parse line with
        | error error => simp [parsed] at applied
        | ok found => exact ⟨found, rfl⟩
      · split at applied
        · cases applied
        · exact ih applied later
        · next directive _ =>
          cases others : ((context.apply directive).applyDirectives rest).result with
          | error error => simp [others, Except.map] at applied
          | ok count => exact ih others later

end LayoutRecovery
