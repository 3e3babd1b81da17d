import LayoutRecovery.Proofs.Directive.Subroutines
import LayoutRecovery.Proofs.Directive.Switch

/-!
# What the directives leave behind

The directives of an input are carried out in order, wherever they stand among the other lines.
Each keyword acts on a part of the context that no other one touches: a switch sets its heuristic
once and for all, a size and a class name replace the one before, and a subroutine replaces the one
of its name.  What is left at the end is decided by which switches there are and by the order within
each of the other three keywords.
-/

namespace LayoutRecovery

namespace SubroutineTable

/-- Only one table lists given declarations. -/
theorem Lists.unique {declared : List Subroutine} {left right : SubroutineTable}
    (one : Lists declared left) (other : Lists declared right) : left = right := by
  have recovered : ∀ {table : SubroutineTable}, Lists declared table →
      (table.map Subroutine.name).filterMap (latest? declared) = table := by
    intro table lists
    rw [List.filterMap_map]
    calc table.filterMap (latest? declared ∘ Subroutine.name)
      _ = table.filterMap some := List.filterMap_congr lists.latest
      _ = table := List.filterMap_some
  rw [← recovered one, ← recovered other, one.names, other.names]

end SubroutineTable

namespace Directive

/-- The subroutine that a directive declares. -/
def subroutine? : Directive → Option Subroutine
  | subroutine declared => some declared
  | _ => none

/-- The name that a directive gives the class. -/
def className? : Directive → Option String
  | className name => some name
  | _ => none

/-- The size that a directive declares. -/
def totalSize? : Directive → Option Size
  | totalSize size => some size
  | _ => none

theorem keyword_of_picked (directive : Directive) :
    (directive.subroutine?.isSome = true → directive.keyword = .subroutine) ∧
      (directive.className?.isSome = true → directive.keyword = .className) ∧
      (directive.totalSize?.isSome = true → directive.keyword = .totalSize) := by
  cases directive <;> simp [subroutine?, className?, totalSize?, keyword]

/-- The directives that texts write. -/
def ofTexts (texts : List String) : List Directive :=
  texts.filterMap ofText?

end Directive

/-- The context that directives leave behind if nothing is read before them. -/
structure Context.Instructed (heuristics : Heuristics) (memberStem : String)
    (directives : List Directive) (context : Context) : Prop where
  skipTerminators : context.heuristics.skipTerminators = true ↔
    heuristics.skipTerminators = true ∧ Directive.keepTerminators ∉ directives
  skipCaseCalls : context.heuristics.skipCaseCalls = true ↔
    heuristics.skipCaseCalls = true ∧ Directive.keepCaseCalls ∉ directives
  reportSizes : context.heuristics.reportSizes = true ↔
    heuristics.reportSizes = true ∨ Directive.reportSizes ∈ directives
  absorbSlack : context.heuristics.absorbSlack = true ↔
    heuristics.absorbSlack = true ∨ Directive.absorbSlack ∈ directives
  declaredSize : context.declaredSize = (directives.filterMap Directive.totalSize?).getLast?
  className : context.className = (directives.filterMap Directive.className?).getLast?
  subroutines :
    SubroutineTable.Lists (directives.filterMap Directive.subroutine?) context.subroutines
  tally : context.tally = Tally.start
  memberStem : context.memberStem = memberStem
  previousLine : context.previousLine = none
  suppressesNext : context.suppressesNext = false

namespace Context

variable {heuristics : Heuristics} {memberStem : String} {directives : List Directive}
  {context : Context}

/-- One more directive acts on its own part of the context. -/
theorem Instructed.apply (left : Instructed heuristics memberStem directives context)
    (directive : Directive) :
    Instructed heuristics memberStem (directives ++ [directive]) (context.apply directive) where
  skipTerminators := by
    cases directive <;>
      simp [Context.apply, register, setHeuristic, Heuristics.set, left.skipTerminators]
  skipCaseCalls := by
    cases directive <;>
      simp [Context.apply, register, setHeuristic, Heuristics.set, left.skipCaseCalls]
  reportSizes := by
    cases directive <;>
      simp [Context.apply, register, setHeuristic, Heuristics.set, left.reportSizes]
  absorbSlack := by
    cases directive <;>
      simp [Context.apply, register, setHeuristic, Heuristics.set, left.absorbSlack]
  declaredSize := by
    rw [List.filterMap_append]
    cases directive <;>
      simp [Context.apply, register, setHeuristic, Directive.totalSize?, left.declaredSize]
  className := by
    rw [List.filterMap_append]
    cases directive <;>
      simp [Context.apply, register, setHeuristic, Directive.className?, left.className]
  subroutines := by
    rw [List.filterMap_append]
    cases directive with
    | subroutine declared => exact left.subroutines.register declared
    | _ => exact (List.append_nil _).symm ▸ left.subroutines
  tally := by cases directive <;> exact left.tally
  memberStem := by cases directive <;> exact left.memberStem
  previousLine := by cases directive <;> exact left.previousLine
  suppressesNext := by cases directive <;> exact left.suppressesNext

theorem instructed_foldl_apply (heuristics : Heuristics) (memberStem : String)
    (directives : List Directive) :
    Instructed heuristics memberStem directives
      (directives.foldl Context.apply (initial heuristics memberStem)) := by
  induction directives using List.reverseRecOn with
  | nil =>
      refine ⟨?_, ?_, ?_, ?_, rfl, rfl, SubroutineTable.lists_foldl_register [], rfl, rfl, rfl, rfl⟩
      all_goals simp [initial]
  | append_singleton directives directive ih =>
      rw [List.foldl_append]
      exact ih.apply directive

/-- Without a malformed directive, the directives of an input are all carried out. -/
theorem instructed_of_applied {lines : List SourceLine} {count : Nat}
    (applied : ((initial heuristics memberStem).applyDirectives lines).result = .ok count) :
    Instructed heuristics memberStem (Directive.ofTexts (lines.map SourceLine.text))
      ((initial heuristics memberStem).applyDirectives lines).context := by
  rw [context_applyDirectives applied]
  exact instructed_foldl_apply ..

/-- What directives leave behind depends on their order only among those that replace one
another. -/
theorem Instructed.unique {others : List Directive} {other : Context}
    (left : Instructed heuristics memberStem directives context)
    (right : Instructed heuristics memberStem others other)
    (same : ∀ directive, directive ∈ directives ↔ directive ∈ others)
    (subroutines : directives.filterMap Directive.subroutine? =
      others.filterMap Directive.subroutine?)
    (names : directives.filterMap Directive.className? = others.filterMap Directive.className?)
    (sizes : directives.filterMap Directive.totalSize? =
      others.filterMap Directive.totalSize?) : context = other := by
  have heuristics : context.heuristics = other.heuristics := by
    ext <;> rw [Bool.eq_iff_iff]
    · rw [left.skipTerminators, right.skipTerminators, same]
    · rw [left.skipCaseCalls, right.skipCaseCalls, same]
    · rw [left.reportSizes, right.reportSizes, same]
    · rw [left.absorbSlack, right.absorbSlack, same]
  ext1
  · rw [left.tally, right.tally]
  · exact (subroutines ▸ left.subroutines).unique right.subroutines
  · exact heuristics
  · rw [left.declaredSize, right.declaredSize, sizes]
  · rw [left.className, right.className, names]
  · rw [left.memberStem, right.memberStem]
  · rw [left.previousLine, right.previousLine]
  · rw [left.suppressesNext, right.suppressesNext]

end Context

/-! ## Directives among other lines -/

namespace Directive

variable {text : String} {directive : Directive}

theorem parse_of_ofText? (written : ofText? text = some directive) :
    parse { index := 0, text } = .ok (some directive) := by
  unfold ofText? at written
  cases parsed : parse { index := 0, text } with
  | error error => simp [parsed, Except.toOption] at written
  | ok found =>
      rw [parsed] at written
      exact congrArg Except.ok written

theorem ofLine?_of_ofText? (written : ofText? text = some directive) :
    Keyword.ofLine? text.toList = some directive.keyword := by
  have characters : ({ index := 0, text } : SourceLine).characters = text.toList := rfl
  rw [← characters]
  exact ofLine?_of_parse (parse_of_ofText? written)

theorem filterMap_ofTexts_filter {α : Type} {pick : Directive → Option α} {among : String → Bool}
    (kept : ∀ text directive, ofText? text = some directive → (pick directive).isSome = true →
      among text = true) (texts : List String) :
    (ofTexts (texts.filter among)).filterMap pick = (ofTexts texts).filterMap pick := by
  simp only [ofTexts, List.filterMap_filterMap, List.filterMap_filter]
  refine List.filterMap_congr fun text _ => ?_
  split
  · rfl
  · next left_out =>
    cases written : ofText? text with
    | none => rfl
    | some directive =>
        cases picked : pick directive with
        | none => exact picked.symm
        | some value =>
            exact absurd (kept text directive written (by rw [picked]; rfl)) left_out

end Directive

theorem Context.result_applyDirectives {context : Context} {lines : List SourceLine}
    (read : ∀ line ∈ lines, ∃ found, Directive.parse line = .ok found) :
    (context.applyDirectives lines).result =
      .ok (lines.countP fun line => Directive.isDirective line.characters) := by
  induction lines generalizing context with
  | nil => rfl
  | cons line rest ih =>
      obtain ⟨found, parsed⟩ := read line (by simp)
      have later : ∀ context : Context, (context.applyDirectives rest).result =
          .ok (rest.countP fun line => Directive.isDirective line.characters) :=
        fun context => ih fun other inside => read other (List.mem_cons_of_mem line inside)
      cases found with
      | none =>
          have plain : Directive.isDirective line.characters = false :=
            Directive.isDirective_of_parse parsed
          simp only [applyDirectives, parsed, later, List.countP_cons, plain]
          rfl
      | some directive =>
          have instructs : Directive.isDirective line.characters = true :=
            Directive.isDirective_of_parse parsed
          simp only [applyDirectives, parsed, later, List.countP_cons, instructs]
          rfl

/-- Lines with the same directives in another order, among any other lines.  The order is the same
among the directives with one keyword wherever a later one replaces an earlier one. -/
structure Directive.Rearranges (other lines : List String) : Prop where
  perm : (other.filter fun text => isDirective text.toList).Perm
    (lines.filter fun text => isDirective text.toList)
  ordered : ∀ keyword ∈ [Keyword.subroutine, .className, .totalSize],
    (other.filter fun text => Keyword.ofLine? text.toList == some keyword) =
      lines.filter fun text => Keyword.ofLine? text.toList == some keyword

namespace Directive

variable {other lines : List String}

theorem Rearranges.sound (rearranges : Rearranges other lines) (sound : Sound lines) :
    Sound other := by
  intro text inside keyword fault faulty
  have instructs : isDirective text.toList = true := by
    cases faulty with
    | miscounted written _ | unsized written =>
        rw [isDirective, Keyword.ofLine?_eq_some_iff.mpr ⟨_, written⟩]
        rfl
  have among := rearranges.perm.mem_iff.mp (List.mem_filter.mpr ⟨inside, instructs⟩)
  exact sound text (List.mem_filter.mp among).1 keyword fault faulty

theorem Rearranges.mem_iff (rearranges : Rearranges other lines) (directive : Directive) :
    directive ∈ ofTexts other ↔ directive ∈ ofTexts lines := by
  have kept : ∀ text directive, ofText? text = some directive →
      (some directive).isSome = true → isDirective text.toList = true := by
    intro text directive written _
    rw [isDirective, ofLine?_of_ofText? written]
    rfl
  have all : ∀ texts, ofTexts (texts.filter fun text => isDirective text.toList) =
      ofTexts texts := by
    intro texts
    simpa using filterMap_ofTexts_filter kept texts
  rw [← all other, ← all lines]
  exact (rearranges.perm.filterMap _).mem_iff

theorem Rearranges.filterMap_eq (rearranges : Rearranges other lines) {keyword : Keyword}
    (replaces : keyword ∈ [Keyword.subroutine, .className, .totalSize]) {α : Type}
    {pick : Directive → Option α}
    (kind : ∀ directive, (pick directive).isSome = true → directive.keyword = keyword) :
    (ofTexts other).filterMap pick = (ofTexts lines).filterMap pick := by
  have kept : ∀ text directive, ofText? text = some directive →
      (pick directive).isSome = true → (Keyword.ofLine? text.toList == some keyword) = true := by
    intro text directive written picked
    rw [ofLine?_of_ofText? written, kind directive picked, beq_self_eq_true]
  rw [← filterMap_ofTexts_filter kept other, ← filterMap_ofTexts_filter kept lines,
    rearranges.ordered keyword replaces]

end Directive

/-- The directives of an input are all counted and leave behind what they instruct, and neither the
other lines nor the order of the directives matters, except where one replaces another. -/
theorem instructed_applyDirectives (heuristics : Heuristics) (memberStem : String)
    {lines : List SourceLine} (sound : Directive.Sound (lines.map SourceLine.text)) :
    let run := (Context.initial heuristics memberStem).applyDirectives lines
    run.result = .ok (lines.countP fun line => Directive.isDirective line.characters) ∧
      run.context.Instructed heuristics memberStem
        (Directive.ofTexts (lines.map SourceLine.text)) ∧
      ∀ other : List SourceLine,
        Directive.Rearranges (other.map SourceLine.text) (lines.map SourceLine.text) →
          let rearranged := (Context.initial heuristics memberStem).applyDirectives other
          rearranged.result = run.result ∧ rearranged.context = run.context := by
  -- the first two parts for any sound input, so that they hold of the rearranged one as well
  have counts : ∀ {lines : List SourceLine}, Directive.Sound (lines.map SourceLine.text) →
      ((Context.initial heuristics memberStem).applyDirectives lines).result =
        .ok (lines.countP fun line => Directive.isDirective line.characters) := by
    intro lines sound
    refine Context.result_applyDirectives fun line inside => ?_
    exact Directive.exists_parse_iff.mpr (sound _ (List.mem_map_of_mem inside))
  have instructs : ∀ {lines : List SourceLine}, Directive.Sound (lines.map SourceLine.text) →
      ((Context.initial heuristics memberStem).applyDirectives lines).context.Instructed heuristics
        memberStem (Directive.ofTexts (lines.map SourceLine.text)) :=
    fun sound => Context.instructed_of_applied (counts sound)
  refine ⟨counts sound, instructs sound, fun other rearranges => ⟨?_, ?_⟩⟩
  · have number : ∀ lines : List SourceLine,
        (lines.countP fun line => Directive.isDirective line.characters) =
          ((lines.map SourceLine.text).filter fun text =>
            Directive.isDirective text.toList).length := by
      intro lines
      rw [← List.countP_eq_length_filter, List.countP_map]
      rfl
    rw [counts (rearranges.sound sound), counts sound, number, number, rearranges.perm.length_eq]
  · exact (instructs (rearranges.sound sound)).unique (instructs sound) rearranges.mem_iff
      (rearranges.filterMap_eq (by simp) fun directive => directive.keyword_of_picked.1)
      (rearranges.filterMap_eq (by simp) fun directive => directive.keyword_of_picked.2.1)
      (rearranges.filterMap_eq (by simp) fun directive => directive.keyword_of_picked.2.2)

/-- A subroutine that is declared again keeps its place, and a switch may stand anywhere. -/
theorem instructed_applyDirectives_declared_again :
    let lines := SourceLine.ofTexts
      ["#sub read int 4", "#size 32", "void f(int a1)", "#nostrnull", "#sub rea char 1",
        "  *(_BYTE *)a1 = 1;", "#sub read long 8", "#size 16", "#logsize"]
    let other := SourceLine.ofTexts
      ["#logsize", "#size 32", "#sub read int 4", "#sub rea char 1", "#size 16", "  v1 = 0;",
        "#sub read long 8", "#nostrnull"]
    Directive.Sound (lines.map SourceLine.text) ∧
      Directive.Rearranges (other.map SourceLine.text) (lines.map SourceLine.text) ∧
      ((Context.initial {} "").applyDirectives lines).result = .ok 7 ∧
      ((Context.initial {} "").applyDirectives other).result = .ok 7 ∧
      ((Context.initial {} "").applyDirectives other).context =
        { Context.initial { skipTerminators := false, reportSizes := true } "" with
          subroutines := [⟨"read", "long", ⟨8⟩⟩, ⟨"rea", "char", ⟨1⟩⟩]
          declaredSize := some ⟨16⟩ } := by
  intro lines other
  have carried : ((Context.initial {} "").applyDirectives lines).result = .ok 7 := by
    decide +kernel
  have sound : Directive.Sound (lines.map SourceLine.text) := by
    rw [SourceLine.map_text_ofTexts]
    exact exists_applyDirectives_ofTexts_iff.mp ⟨7, carried⟩
  have rearranges :
      Directive.Rearranges (other.map SourceLine.text) (lines.map SourceLine.text) :=
    ⟨by decide +kernel, by decide +kernel⟩
  obtain ⟨-, -, same⟩ := instructed_applyDirectives {} "" sound
  obtain ⟨result, context⟩ := same other rearranges
  refine ⟨sound, rearranges, carried, result.trans carried, context.trans ?_⟩
  decide +kernel

end LayoutRecovery
