import LayoutRecovery.Proofs.Transcript.Course
import Mathlib.Data.List.Forall2

/-!
# Locality

What a line gives rise to depends on its text, on the text of the line behind it and on the context,
but not on its number, which only log records show.  Two inputs with the same settings and the same
signature whose bodies agree on some lines and on the line behind these are therefore transcribed
alike up to there: neither what stands above the signature nor what follows later can change a
member.
-/

namespace LayoutRecovery

/-- Reports that differ at most in their log records. -/
structure LineReport.Alike (left right : LineReport) : Prop where
  items : left.items = right.items
  declares : left.declares = right.declares

namespace LineReport.Alike

variable {left right : List LineReport}

theorem flatMap_items (alike : List.Forall₂ Alike left right) :
    left.flatMap LineReport.items = right.flatMap LineReport.items := by
  induction alike with
  | nil => rfl
  | cons first _ ih => rw [List.flatMap_cons, List.flatMap_cons, first.items, ih]

theorem countP_declares (alike : List.Forall₂ Alike left right) :
    left.countP LineReport.declares = right.countP LineReport.declares := by
  induction alike with
  | nil => rfl
  | cons first _ ih => rw [List.countP_cons, List.countP_cons, first.declares, ih]

end LineReport.Alike

namespace Context

/-! ## One line -/

section

variable (context : Context) {left right : SourceLine} (same : left.text = right.text)
  {next other : Option SourceLine} (ahead : next.map SourceLine.text = other.map SourceLine.text)

include same in
theorem perform_congr (reading : Reading) :
    context.perform left reading = context.perform right reading := by
  obtain ⟨index, text⟩ := left
  obtain ⟨position, words⟩ := right
  obtain rfl : text = words := same
  cases reading <;> rfl

include same ahead in
theorem read_congr (kind : LineKind) :
    context.read kind left next = context.read kind right other := by
  obtain ⟨index, text⟩ := left
  obtain ⟨position, words⟩ := right
  obtain rfl : text = words := same
  cases next with
  | none =>
      obtain rfl : other = none := Option.map_eq_none_iff.mp ahead.symm
      cases kind <;> rfl
  | some following =>
      obtain ⟨behind, rfl, texts⟩ := Option.map_eq_some_iff.mp ahead.symm
      obtain ⟨index, text⟩ := following
      obtain ⟨position, words⟩ := behind
      obtain rfl : words = text := texts
      cases kind <;> rfl

include same in
theorem copyItems_congr : left.copyItems = right.copyItems := by
  rw [SourceLine.copyItems, SourceLine.copyItems, SourceLine.isEmpty, SourceLine.isEmpty, same]

include same in
theorem record_congr (kind : LineKind) (step : EmissionStep) :
    (record left kind step).report.Alike (record right kind step).report ∧
      (record left kind step).context = (record right kind step).context := by
  have copies := copyItems_congr same
  unfold record
  cases step.emission with
  | members items => refine ⟨⟨?_, ?_⟩, ?_⟩ <;> simp only [copies, same]
  | remark items => refine ⟨⟨?_, ?_⟩, ?_⟩ <;> simp only [copies]
  | skipped reason => refine ⟨⟨?_, ?_⟩, ?_⟩ <;> simp only [passOver, copies]
  | unparsed => refine ⟨⟨?_, ?_⟩, ?_⟩ <;> simp only [passOver, copies]

include same in
theorem passOver_congr (log others : List LogRecord) :
    (context.passOver left log).report.Alike (context.passOver right others).report :=
  ⟨copyItems_congr same, rfl⟩

include same ahead in
theorem emit_congr (kind : LineKind) :
    context.emit kind left next = context.emit kind right other := by
  simp only [emit, context.read_congr same ahead, context.perform_congr same]

include same ahead in
theorem step_congr :
    (context.step left next).report.Alike (context.step right other).report ∧
      (context.step left next).context = (context.step right other).context := by
  have characters : left.characters = right.characters := congrArg String.toList same
  simp only [step, stepBody, characters]
  split
  · exact ⟨passOver_congr _ same .., rfl⟩
  · split
    · exact ⟨passOver_congr _ same .., rfl⟩
    · rw [emit_congr _ same ahead]
      split
      · exact record_congr same ..
      · exact ⟨passOver_congr _ same .., rfl⟩

end

/-! ## The first lines of a body -/

/-- Bodies that agree on some lines and on the line behind these are taken alike up to there. -/
theorem transcribe_congr (context : Context) {left right : List SourceLine} {count : Nat}
    (agree : (left.map SourceLine.text).take (count + 1) =
      (right.map SourceLine.text).take (count + 1)) :
    List.Forall₂ LineReport.Alike ((context.transcribe left).reports.take count)
        ((context.transcribe right).reports.take count) ∧
      context.after (left.take count) (left.drop count) =
        context.after (right.take count) (right.drop count) := by
  induction count generalizing context left right with
  | zero => exact ⟨.nil, rfl⟩
  | succ count ih =>
      cases left with
      | nil =>
          cases right with
          | nil => exact ⟨.nil, rfl⟩
          | cons line rest => cases agree
      | cons line rest =>
          cases right with
          | nil => cases agree
          | cons twin others =>
              obtain ⟨same, later⟩ := List.cons.inj agree
              have ahead : rest.head?.map SourceLine.text = others.head?.map SourceLine.text := by
                have heads := congrArg List.head? later
                simpa [List.head?_take] using heads
              obtain ⟨first, contexts⟩ := context.step_congr same ahead
              obtain ⟨reports, after⟩ := ih (context.step line rest.head?).context later
              rw [List.take_succ_cons, List.take_succ_cons, List.drop_succ_cons,
                List.drop_succ_cons, Context.after, Context.after, List.take_append_drop,
                List.take_append_drop, ← contexts]
              refine ⟨.cons first ?_, after⟩
              rw [← contexts]
              exact reports

theorem length_reports_transcribe (context : Context) (lines : List SourceLine) :
    (context.transcribe lines).reports.length = lines.length := by
  induction lines generalizing context with
  | nil => rfl
  | cons line rest ih => exact congrArg (· + 1) (ih _)

theorem transcribe_of_texts (context : Context) {left right : List SourceLine}
    (same : left.map SourceLine.text = right.map SourceLine.text) :
    List.Forall₂ LineReport.Alike (context.transcribe left).reports
        (context.transcribe right).reports ∧
      (context.transcribe left).context = (context.transcribe right).context := by
  have count : left.length = right.length := by simpa using congrArg List.length same
  have agree : (left.map SourceLine.text).take (left.length + 1) =
      (right.map SourceLine.text).take (left.length + 1) := by rw [same]
  obtain ⟨reports, after⟩ := context.transcribe_congr agree
  rw [List.take_length, List.drop_length, count, List.take_length, List.drop_length] at after
  have whole := context.length_reports_transcribe left
  have other := (context.length_reports_transcribe right).trans count.symm
  rw [List.take_of_length_le (Nat.le_of_eq whole), List.take_of_length_le (Nat.le_of_eq other)]
    at reports
  rw [context_transcribe, context_transcribe]
  exact ⟨reports, after⟩

end Context

/-! ## Two inputs -/

/-- The context in which a body is read holds nothing but what the directives have set. -/
theorem Style.start_eq {style : Style} {heuristics : Heuristics} {left right : List SourceLine}
    (settings : (style.start heuristics left).SameSettings (style.start heuristics right)) :
    style.start heuristics right = style.start heuristics left := by
  have fresh : ∀ lines, (style.start heuristics lines).tally = Tally.start ∧
      (style.start heuristics lines).previousLine = none ∧
      (style.start heuristics lines).suppressesNext = false := fun _ =>
    ⟨tally_applyDirectives .., previousLine_applyDirectives .., suppressesNext_applyDirectives ..⟩
  obtain ⟨tally, previous, unmarked⟩ := fresh left
  obtain ⟨other_tally, other_previous, other_unmarked⟩ := fresh right
  apply Context.ext
  · exact other_tally.trans tally.symm
  · exact settings.subroutines
  · exact settings.heuristics
  · exact settings.declaredSize
  · exact settings.className
  · exact settings.memberStem
  · exact other_previous.trans previous.symm
  · exact other_unmarked.trans unmarked.symm

theorem Header.exists_render (header : Header) :
    ∃ above below, ∀ hash, { header with inputHash := hash }.render =
      above ++ "// hash of whole input: " ++ Numeral.word32Hex hash ++ "\n" ++ below := by
  refine ⟨"// generated output for subroutine:\n// " ++ header.signature ++ " -----> hash: "
    ++ Numeral.word32Hex header.signatureHash ++ "\n",
    "\nnamespace " ++ header.namespaceName ++ "\n\x7b\n\tpublic class " ++ header.className
      ++ " : " ++ header.baseClass
      ++ header.declaredSize.elim "" (fun size => "\t\t// total size: " ++ size.hex)
      ++ "\n\t\x7b\n", fun hash => ?_⟩
  have mark : "\n// hash of whole input: " = "\n" ++ "// hash of whole input: " := by simp
  have opening : "\n\nnamespace " = "\n" ++ "\nnamespace " := by simp
  unfold render
  rw [mark, opening]
  cases header.declaredSize <;> simp only [String.append_assoc, Option.elim]

/-- The text of a class goes on behind the header with the text of its first lines. -/
theorem Stub.exists_render {stub : Stub} {header : Header} {transcript : Transcript}
    (made : stub = ofTranscript header transcript) (count : Nat) :
    ∃ rest, stub.render = stub.header.render ++
      Item.renderAll ((transcript.reports.take count).flatMap LineReport.items) ++ rest := by
  obtain rfl := made
  have items : transcript.items = (transcript.reports.take count).flatMap LineReport.items ++
      (transcript.reports.drop count).flatMap LineReport.items := by
    rw [← List.flatMap_append, List.take_append_drop]
    rfl
  simp only [render, ofTranscript, items, Item.renderAll_append, String.append_assoc]
  exact ⟨_, rfl⟩

/-- Classes that start with the same lines of their bodies, read in the same context. -/
structure Stub.SharesFront (first second : Stub) (start : Context)
    (body other : List SourceLine) (count : Nat) : Prop where
  reports : List.Forall₂ LineReport.Alike ((start.transcribe body).reports.take count)
    ((start.transcribe other).reports.take count)
  parsedLines : ((start.transcribe body).reports.take count).countP LineReport.declares =
    ((start.transcribe other).reports.take count).countP LineReport.declares
  context : start.after (body.take count) (body.drop count) =
    start.after (other.take count) (other.drop count)
  header : second.header = { first.header with inputHash := second.header.inputHash }
  text : ∃ above below rest others,
    first.render = above ++ "// hash of whole input: " ++
      Numeral.word32Hex first.header.inputHash ++ "\n" ++ below ++
      Item.renderAll (((start.transcribe body).reports.take count).flatMap LineReport.items)
        ++ rest ∧
    second.render = above ++ "// hash of whole input: " ++
      Numeral.word32Hex second.header.inputHash ++ "\n" ++ below ++
      Item.renderAll (((start.transcribe body).reports.take count).flatMap LineReport.items)
        ++ others

/-- Two inputs with the same settings and the same signature whose bodies agree on some lines and on
the line behind these give classes that differ up to there in the fingerprint of the whole input
only. -/
theorem sharesFront_of_reconstruct {style : Style} {heuristics : Heuristics}
    {fingerprint : String → UInt32} {left right : List SourceLine} {first second : Stub}
    (returns : (reconstruct style heuristics fingerprint left).result = .ok (some first))
    (returns_other : (reconstruct style heuristics fingerprint right).result = .ok (some second))
    (settings : (style.start heuristics left).SameSettings (style.start heuristics right))
    {signature twin : SourceLine} {body other : List SourceLine}
    (signed : Stub.fromSignature left = signature :: body)
    (signed_other : Stub.fromSignature right = twin :: other)
    (same : signature.text = twin.text) {count : Nat}
    (agree : (body.map SourceLine.text).take (count + 1) =
      (other.map SourceLine.text).take (count + 1)) :
    first.SharesFront second (style.start heuristics left) body other count := by
  have starts := Style.start_eq settings
  have first_eq := eq_ofTranscript_of_reconstruct returns signed
  have second_eq := eq_ofTranscript_of_reconstruct returns_other signed_other
  rw [starts] at second_eq
  obtain ⟨reports, contexts⟩ := (style.start heuristics left).transcribe_congr agree
  have header : second.header = { first.header with inputHash := second.header.inputHash } := by
    rw [first_eq, second_eq]
    simp only [Stub.ofTranscript, Header.make, same]
  refine ⟨reports, LineReport.Alike.countP_declares reports, contexts, header, ?_⟩
  obtain ⟨above, below, headers⟩ := first.header.exists_render
  obtain ⟨rest, first_text⟩ := Stub.exists_render first_eq count
  obtain ⟨others, second_text⟩ := Stub.exists_render second_eq count
  have second_header := headers second.header.inputHash
  rw [← header] at second_header
  refine ⟨above, below, rest, others, ?_, ?_⟩
  · rw [first_text, ← headers]
  · rw [second_text, ← LineReport.Alike.flatMap_items reports, second_header]

/-- Two inputs that share a directive, the signature and a call that the line behind it sizes. -/
theorem sharesFront_of_reconstruct_call :
    let shared := ["#size 9", "f(a1)", "  g_1(a1);", "  *(_BYTE *)(a1 + 8) = v2;"]
    let left := SourceLine.ofTexts (shared ++ ["  g_1(a2);"])
    let right := SourceLine.ofTexts ("other" :: shared)
    ∃ first second signature twin body other,
      (reconstruct {} {} (fun _ => 0) left).result = .ok (some first) ∧
      (reconstruct {} {} (fun _ => 0) right).result = .ok (some second) ∧
      (Style.start {} {} left).SameSettings (Style.start {} {} right) ∧
      Stub.fromSignature left = signature :: body ∧ Stub.fromSignature right = twin :: other ∧
      signature.text = twin.text ∧
      (body.map SourceLine.text).take 2 = (other.map SourceLine.text).take 2 ∧
      first.SharesFront second (Style.start {} {} left) body other 1 := by
  intro shared left right
  have returned : (reconstruct {} {} (fun _ => 0) left).result.toOption.join.isSome = true ∧
      (reconstruct {} {} (fun _ => 0) right).result.toOption.join.isSome = true := by
    decide +kernel
  obtain ⟨first, found⟩ := Option.isSome_iff_exists.mp returned.1
  obtain ⟨second, found_other⟩ := Option.isSome_iff_exists.mp returned.2
  have returns := eq_ok_of_toOption found
  have returns_other := eq_ok_of_toOption found_other
  have starts : Style.start {} {} right = Style.start {} {} left := by decide +kernel
  have settings : (Style.start {} {} left).SameSettings (Style.start {} {} right) := by
    rw [starts]
    exact .refl _
  have signed : Stub.fromSignature left = left[1] :: left.drop 2 := by decide +kernel
  have signed_other : Stub.fromSignature right = right[2] :: right.drop 3 := by decide +kernel
  have same : left[1].text = right[2].text := by decide +kernel
  have agree : ((left.drop 2).map SourceLine.text).take 2 =
      ((right.drop 3).map SourceLine.text).take 2 := by decide +kernel
  exact ⟨first, second, left[1], right[2], left.drop 2, right.drop 3, returns, returns_other,
    settings, signed, signed_other, same, agree,
    sharesFront_of_reconstruct returns returns_other settings signed signed_other same agree⟩

end LayoutRecovery
