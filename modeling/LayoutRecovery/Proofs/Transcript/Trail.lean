import LayoutRecovery.Proofs.Directive.Subroutines
import LayoutRecovery.Proofs.Naming.Identifier
import LayoutRecovery.Proofs.Transcript.Course
import LayoutRecovery.Proofs.Transcript.Written

/-!
# The trail of an input

The lines of a class that start like a copy of an input line are copies of input lines: of every
line behind the signature that is not empty, once and in order, whatever the line gave rise to.
Nothing else in a class can look like one, since accepted configurations are made of identifiers,
names in directives are words, and everything else comes from within a line.
-/

namespace LayoutRecovery

open SourceLine (originMark)
open Text (Unbroken Silent Tells)

/-! ## What a line adds -/

namespace Context

theorem silent_place (context : Context) {member : Member} (legible : member.Legible) :
    ∀ item ∈ (context.place member).items, item.Silent := by
  refine List.forall_mem_append.mpr ⟨List.forall_mem_append.mpr ⟨?_, ?_⟩,
    List.forall_mem_singleton.mpr legible.silent⟩
  · cases (context.reconcile member.offset).conflict with
    | none => exact List.forall_mem_nil _
    | some conflict => exact List.forall_mem_singleton.mpr (Item.silent_conflict conflict)
  · simp only [reconcile, Tally.reconcile]
    split
    · next padding filled =>
      split at filled
      · cases filled
      · obtain rfl := Option.some.inj filled
        refine List.forall_mem_cons.mpr ⟨Item.silent_blank, List.forall_mem_cons.mpr
          ⟨(Tally.legible_padding _ _ _).silent, List.forall_mem_singleton.mpr Item.silent_blank⟩⟩
    · exact List.forall_mem_nil _

theorem silent_placeAll (context : Context) {declared : List Member}
    (legible : ∀ member ∈ declared, member.Legible) :
    ∀ item ∈ (context.placeAll declared).items, item.Silent := by
  induction declared generalizing context with
  | nil => exact List.forall_mem_nil _
  | cons member rest ih =>
      obtain ⟨first, others⟩ := List.forall_mem_cons.mp legible
      exact List.forall_mem_append.mpr ⟨context.silent_place first, ih _ others⟩

/-- What a line adds above its copy looks nowhere like a copy. -/
theorem exists_silent_step {context : Context} (legible : context.Legible) {line : SourceLine}
    (unbroken : Unbroken line.text) (next : Option SourceLine) :
    ∃ pieces, (context.step line next).report.items = pieces ++ line.copyItems ∧
      ∀ item ∈ pieces, item.Silent := by
  have steps := context.steps_step line next
  generalize context.step line next = step at steps ⊢
  generalize context.declaredBy line next = declared at steps
  cases steps with
  | suppressed marked log => exact ⟨[], rfl, List.forall_mem_nil _⟩
  | directive unmarked instructs log => exact ⟨[], rfl, List.forall_mem_nil _⟩
  | inert unmarked body silent log => exact ⟨[], rfl, List.forall_mem_nil _⟩
  | @read unmarked body reading _ reads log =>
      have members := legible.declared unbroken reads
      have sizes : ∀ (shown : Bool) (size : Size),
          ∀ item ∈ (if shown then [Item.remark (.accumulated size)] else []), item.Silent := by
        intro shown size
        cases shown with
        | false => exact List.forall_mem_nil _
        | true => exact List.forall_mem_singleton.mpr (Item.silent_accumulated size)
      cases reading with
      | members above declared =>
          have opening : ∀ item ∈ above, item.Silent := by
            rcases (context.read_declares reads).opening with nothing | blank
            · rw [show above = [] from nothing]
              exact List.forall_mem_nil _
            · rw [show above = [.blank] from blank]
              exact List.forall_mem_singleton.mpr Item.silent_blank
          exact ⟨_, rfl, List.forall_mem_append.mpr ⟨List.forall_mem_append.mpr
            ⟨opening, context.silent_placeAll members⟩, sizes _ _⟩⟩
      | terminated member =>
          exact ⟨_, rfl, List.forall_mem_append.mpr
            ⟨context.silent_place (members member List.mem_cons_self), sizes _ _⟩⟩
      | loop =>
          have trimmed : Unbroken line.trimmed :=
            Text.unbroken_ofList.mpr fun inside => unbroken (Text.trim_subset _ inside)
          exact ⟨[.blank, .remark (.loop line.trimmed)], rfl, List.forall_mem_cons.mpr
            ⟨Item.silent_blank, List.forall_mem_singleton.mpr (Item.silent_loop trimmed)⟩⟩
      | skipped reason => exact ⟨[], rfl, List.forall_mem_nil _⟩
      | unparsed => exact ⟨[], rfl, List.forall_mem_nil _⟩

end Context

/-! ## All lines of a body -/

theorem Item.tells_of_silent {items : List Item} (silent : ∀ item ∈ items, item.Silent) :
    Tells originMark (items.flatMap Item.lines) [] := by
  refine Tells.of_silent fun line inside => ?_
  obtain ⟨item, member, written⟩ := List.mem_flatMap.mp inside
  exact silent item member line written

theorem SourceLine.tells_copyItems {line : SourceLine} (unbroken : Unbroken line.text) :
    Tells originMark (line.copyItems.flatMap Item.lines)
      (if line.isEmpty then [] else [line.characters]) := by
  unfold copyItems
  cases line.isEmpty with
  | true => exact Tells.nil
  | false =>
      have marked : Text.after? originMark ("\t\t// " ++ ("line: " ++ line.text)).toList =
          some line.characters := by
        rw [Text.after?_eq_some_iff, SourceLine.originMark_eq_append, String.toList_append,
          String.toList_append, List.append_assoc]
        rfl
      refine ⟨List.forall_mem_singleton.mpr ?_, List.filterMap_cons_some marked⟩
      exact Text.unbroken_append.mpr ⟨by decide, Text.unbroken_append.mpr ⟨by decide, unbroken⟩⟩

/-- Whatever becomes of the lines of a body, their copies tell them all. -/
theorem Context.Legible.tells_transcribe {context : Context} (legible : context.Legible)
    {lines : List SourceLine}
    (unbroken : ∀ line ∈ lines, Unbroken line.text) :
    Tells originMark ((context.transcribe lines).items.flatMap Item.lines)
      ((lines.filter fun line => !line.isEmpty).map SourceLine.characters) := by
  induction lines generalizing context with
  | nil => exact Tells.nil
  | cons line rest ih =>
      obtain ⟨here, later⟩ := List.forall_mem_cons.mp unbroken
      obtain ⟨pieces, items, silent⟩ := Context.exists_silent_step legible here rest.head?
      have settings := context.sameSettings_after [line] rest
      have others := ih (legible.of_sameSettings settings) later
      have first := (Item.tells_of_silent silent).append (SourceLine.tells_copyItems here)
      rw [← List.flatMap_append, ← items, List.nil_append] at first
      have whole := first.append others
      rw [← List.flatMap_append] at whole
      have told : ((line :: rest).filter fun line => !line.isEmpty).map SourceLine.characters =
          (if line.isEmpty then [] else [line.characters]) ++
            (rest.filter fun line => !line.isEmpty).map SourceLine.characters := by
        cases empty : line.isEmpty <;> simp [empty]
      rw [told]
      exact whole

/-! ## The summary -/

theorem Context.silent_closing (context : Context) : ∀ item ∈ context.closing, item.Silent := by
  have reached : ∀ declared, (Item.remark (.sizeReached declared)).Silent := by
    intro declared
    have aside : Aside ("total size matches: " ++ declared.hex) :=
      ⟨by simp +decide, Text.unmarked_append (by decide) _⟩
    exact Item.silent_remark aside
  have exceeded : ∀ total declared, (Item.remark (.sizeExceeded total declared)).Silent := by
    intro total declared
    have aside : Aside ("WARNING: accumulated size " ++ total.text
        ++ " exceeds the declared total size " ++ declared.text ++ " by "
        ++ toString (total.toNat - declared.toNat) ++ " bytes") := by
      simp only [String.append_assoc]
      exact ⟨by simp +decide, Text.unmarked_append (by decide) _⟩
    exact Item.silent_remark aside
  have exact_size : (Item.remark .sizeExact).Silent :=
    Item.silent_remark ⟨Text.unbroken_ofList.mpr (by decide), Text.unmarked_ofList (by decide)⟩
  have undeclared : (Item.remark .sizeUndeclared).Silent :=
    Item.silent_remark ⟨Text.unbroken_ofList.mpr (by decide), Text.unmarked_ofList (by decide)⟩
  have behind : ∀ {items : List Item}, (∀ item ∈ items, item.Silent) →
      ∀ item ∈ Item.blank :: items, item.Silent :=
    fun silent => List.forall_mem_cons.mpr ⟨Item.silent_blank, silent⟩
  unfold closing
  dsimp only
  split
  · exact behind (List.forall_mem_singleton.mpr undeclared)
  · next declared _ =>
    split
    · exact behind (List.forall_mem_cons.mpr
        ⟨(context.legible_endPadding declared).silent, List.forall_mem_singleton.mpr (reached _)⟩)
    · split
      · exact behind (List.forall_mem_singleton.mpr (exceeded _ _))
      · exact behind (List.forall_mem_singleton.mpr exact_size)

theorem Stub.tells_ofTranscript {header : Header} {transcript : Transcript}
    (header_silent : ∀ line ∈ header.lines, Silent originMark line) {found : List (List Char)}
    (told : Tells originMark (transcript.items.flatMap Item.lines) found) :
    Tells originMark (ofTranscript header transcript).lines found := by
  have summary := Item.tells_of_silent (List.forall_mem_append.mpr
    ⟨transcript.context.silent_closing, List.forall_mem_cons.mpr
      ⟨Item.silent_accumulated transcript.context.tally.accumulated,
        List.forall_mem_singleton.mpr (Item.silent_parsedLines transcript.parsedLines)⟩⟩)
  have ending : Tells originMark ["\t\x7d", "\x7d"] [] :=
    Tells.of_silent (List.forall_mem_cons.mpr
      ⟨silent_ofList (by decide) (by decide), List.forall_mem_singleton.mpr
        (silent_ofList (by decide) (by decide))⟩)
  have whole := ((Tells.of_silent header_silent).append (told.append summary)).append ending
  rw [← List.flatMap_append, ← List.append_assoc, List.nil_append, List.append_nil,
    List.append_nil] at whole
  exact whole

/-! ## Accepted configurations -/

/-- A style whose names hold no line feed. -/
structure Style.Legible (style : Style) : Prop where
  namespaceName : Unbroken style.namespaceName
  baseClass : Unbroken style.baseClass
  classStem : Unbroken style.classStem
  memberStem : Unbroken style.memberStem

namespace Config

theorem newline_not_mem_of_isIdentifierPath {text : List Char}
    (named : isIdentifierPath text = true) : '\n' ∉ text := by
  intro inside
  obtain ⟨piece, cut, held⟩ := Text.exists_mem_splitOn inside (show '\n' ≠ '.' by decide)
  exact (isToken_of_isIdentifier (List.all_eq_true.mp named piece cut)).notMem (by decide) held

theorem legible_of_fault? {config : Config} (valid : config.fault? = none) :
    config.style.Legible := by
  have named : ∀ name : StyleName, Unbroken (name.value config.style) := fun name =>
    newline_not_mem_of_isIdentifierPath (isIdentifierPath_of_fault? valid name)
  exact ⟨named .namespaceName, named .baseClass, named .classStem, named .memberStem⟩

end Config

/-! ## Directives -/

namespace Directive

/-- The names in a directive hold no line feed. -/
def Legible : Directive → Prop
  | subroutine declared => Unbroken declared.targetType
  | className name => Unbroken name
  | _ => True

theorem legible_of_ofArguments {keyword : Keyword} {arguments : List (List Char)}
    (solid : ∀ word ∈ arguments, '\n' ∉ word) {directive : Directive}
    (accepted : ofArguments keyword arguments = .ok directive) : directive.Legible := by
  have sized : ∀ {size : List Char} {make : Size → Directive},
      (byteCount size).map make = .ok directive → (∀ bytes, (make bytes).Legible) →
        directive.Legible := by
    intro size make read legible
    cases counted : byteCount size with
    | error fault => simp [counted, Except.map] at read
    | ok bytes =>
        rw [counted] at read
        exact Except.ok.inj read ▸ legible bytes
  unfold ofArguments at accepted
  split at accepted
  case h_1 name targetType size =>
    exact sized accepted fun _ => Text.unbroken_ofList.mpr (solid targetType (by simp))
  case h_2 name =>
    exact Except.ok.inj accepted ▸ Text.unbroken_ofList.mpr (solid name (by simp))
  case h_3 size => exact sized accepted fun _ => trivial
  case h_8 => cases accepted
  all_goals exact Except.ok.inj accepted ▸ trivial

theorem legible_of_parse {line : SourceLine} {directive : Directive}
    (parsed : parse line = .ok (some directive)) : directive.Legible := by
  unfold parse at parsed
  split at parsed
  · cases parsed
  · next keyword named =>
    split at parsed
    · next found accepted =>
      obtain rfl := Option.some.inj (Except.ok.inj parsed)
      refine legible_of_ofArguments (fun word inside broken => ?_) accepted
      have blank := Text.visible_of_mem_words (List.mem_of_mem_tail inside) broken
      exact absurd blank (by decide)
    · cases parsed

end Directive

theorem Style.Legible.start {style : Style} (legible : style.Legible) (heuristics : Heuristics)
    (lines : List SourceLine) : (style.start heuristics lines).Legible := by
  have initial : (Context.initial heuristics style.memberStem).Legible :=
    ⟨legible.memberStem, by simp [Context.initial], by simp [Context.initial]⟩
  refine applyDirectives_induction (fun line inside directive parsed context known => ?_) initial
  have names := Directive.legible_of_parse parsed
  cases directive with
  | subroutine declared =>
      refine ⟨known.memberStem, fun subroutine found => ?_, known.className⟩
      rcases SubroutineTable.mem_register_iff.mp found with rfl | ⟨earlier, -⟩
      · exact names
      · exact known.subroutines subroutine earlier
  | className name =>
      refine ⟨known.memberStem, known.subroutines, fun other same => ?_⟩
      rw [← Option.some.inj same]
      exact names
  | _ => exact ⟨known.memberStem, known.subroutines, known.className⟩

theorem Header.legible_make {style : Style} (style_legible : style.Legible)
    (fingerprint : String → UInt32) {context : Context} (legible : context.Legible)
    (lines : List SourceLine) {signature : SourceLine} (unbroken : Unbroken signature.text) :
    (Header.make style fingerprint context lines signature).Legible where
  signature := unbroken
  namespaceName := style_legible.namespaceName
  className := by
    unfold make
    cases found : context.className with
    | none => exact Text.unbroken_append.mpr ⟨style_legible.classStem, Numeral.unbroken_word32Hex _⟩
    | some name => exact legible.className name found
  baseClass := style_legible.baseClass

/-! ## The trail -/

/-- Under an accepted configuration the copies of input lines in a class are those of the lines
behind the signature that are not empty, once each and in order. -/
theorem marked_render_of_reconstruct {config : Config} (valid : config.fault? = none)
    {text : String} {stub : Stub}
    (returns : (config.reconstruct (SourceLine.ofText text)).result = .ok (some stub)) :
    ∃ signature body, Stub.fromSignature (SourceLine.ofText text) = signature :: body ∧
      Text.marked originMark stub.render.toList =
        (body.filter fun line => !line.isEmpty).map SourceLine.characters := by
  obtain ⟨-, signature, body, signed, made⟩ := result_reconstruct_eq_some_iff.mp returns
  refine ⟨signature, body, signed, ?_⟩
  have unbroken : ∀ line ∈ signature :: body, Unbroken line.text := by
    intro line inside
    rw [← signed] at inside
    exact SourceLine.unbroken_of_mem_ofText ((List.dropWhile_suffix _).subset inside)
  obtain ⟨signature_unbroken, body_unbroken⟩ := List.forall_mem_cons.mp unbroken
  have style := Config.legible_of_fault? valid
  have start := style.start config.heuristics (SourceLine.ofText text)
  have header := Header.legible_make style Fingerprint.ofText start (SourceLine.ofText text)
    signature_unbroken
  have told := Stub.tells_ofTranscript header.silent (start.tells_transcribe body_unbroken)
  have filled : originMark ≠ [] := by
    rw [SourceLine.originMark_eq]
    exact List.cons_ne_nil _ _
  rw [made, Stub.render_eq]
  exact told.marked_ofLines filled

/-- A directive, a line that looks like a copy, an empty line and a member leave their copies. -/
theorem marked_render_of_reconstruct_four :
    let text := "f(a1)\n#logsize\n\t\t// line: x\n\n*(_BYTE *)(a1 + 8) = v2;\r\n"
    ({} : Config).fault? = none ∧ ∃ stub signature body,
      (({} : Config).reconstruct (SourceLine.ofText text)).result = .ok (some stub) ∧
      Stub.fromSignature (SourceLine.ofText text) = signature :: body ∧
      Text.marked originMark stub.render.toList =
        ["#logsize".toList, "\t\t// line: x".toList, "*(_BYTE *)(a1 + 8) = v2;".toList] := by
  intro text
  have valid : ({} : Config).fault? = none := by decide +kernel
  have returned : (({} : Config).reconstruct (SourceLine.ofText text)).result.toOption.join.isSome =
      true := by decide +kernel
  obtain ⟨stub, found⟩ := Option.isSome_iff_exists.mp returned
  have returns := eq_ok_of_toOption found
  obtain ⟨signature, body, signed, told⟩ := marked_render_of_reconstruct valid returns
  have lines : ((Stub.fromSignature (SourceLine.ofText text)).tail.filter fun line =>
      !line.isEmpty).map SourceLine.characters =
      ["#logsize".toList, "\t\t// line: x".toList, "*(_BYTE *)(a1 + 8) = v2;".toList] := by
    decide +kernel
  rw [signed, List.tail_cons] at lines
  exact ⟨valid, stub, signature, body, returns, signed, told.trans lines⟩

end LayoutRecovery
