import LayoutRecovery.Proofs.Presentation.Passage

/-!
# What the hint of a string rests on

A gap is put down to a string if the last line that declared members names the copying function.
The hint is taken from the text of that line, and it stays while the members of another line are
placed.  Nevertheless it never misleads: the line was taken as a copy and nothing else, the cursor
stands at the string that it declared, and the members behind the first one of a line leave no
gap.
-/

namespace LayoutRecovery

/-! ## Gaps that are put down to a string -/

/-- A padding with the note that a string may use fewer bytes than its size. -/
def Member.BlamesString (padding : Member) : Prop :=
  ∃ previous : Offset, "string at " ++ previous.text
    ++ " may use fewer bytes than its declared size (string underuse)" ∈ padding.notes

/-- A reconciliation that counts a gap as slack of a string, or blames a string for it. -/
def Reconciliation.BlamesString (reconciliation : Reconciliation) : Prop :=
  reconciliation.absorbed ≠ 0 ∨
    ∃ padding, reconciliation.padding = some padding ∧ padding.BlamesString

namespace Tally

/-- The other notes on a gap start with other letters. -/
theorem afterString_of_padding {tally : Tally} {gap : Nat} {afterString : Bool}
    (blames : (tally.padding gap afterString).BlamesString) : afterString = true := by
  obtain ⟨previous, noted⟩ := blames
  cases afterString with
  | true => rfl
  | false =>
      have letters : ∀ note ∈ (tally.padding gap false).notes, note.toList.head? ≠ some 's' := by
        simp only [padding, List.forall_mem_cons, List.not_mem_nil, false_implies, implies_true,
          and_true]
        constructor
        · simp [String.toList_append]
        · simp only [gapHint, Bool.false_eq_true, if_false]
          split <;> simp [String.toList_append]
      exact absurd (by simp [String.toList_append]) (letters _ noted)

theorem hints_of_blamesString {tally : Tally} {hints : Hints} {offset : Offset}
    (blames : (tally.reconcile hints offset).BlamesString) :
    hints.afterString = true ∧ tally.cursor.stop.toInt < offset.toInt := by
  have gap : ∀ {bytes : Nat}, (tally.cursor.gapTo offset).toNat = bytes → bytes ≠ 0 →
      tally.cursor.stop.toInt < offset.toInt := by
    intro bytes counted filled
    rw [Cursor.toNat_gapTo] at counted
    omega
  rcases blames with absorbs | ⟨padding, present, blames⟩
  · simp only [reconcile] at absorbs
    split at absorbs
    · next both => exact ⟨(Bool.and_eq_true_iff.mp both).2, gap rfl absorbs⟩
    · exact absurd rfl absorbs
  · simp only [reconcile] at present
    split at present
    · cases present
    · next open_gap =>
      rw [not_or] at open_gap
      obtain rfl := Option.some.inj present
      exact ⟨afterString_of_padding blames, gap rfl open_gap.1⟩

end Tally

namespace Context

/-! ## One line -/

/-- Every padding among placed members was found before one of them. -/
theorem exists_reconcile_of_padding {context : Context} {declared : List Member}
    (matter : ∀ member ∈ declared, member.ignored = false) {padding : Member}
    (inside : padding ∈ Item.members (context.placeAll declared).items)
    (fills : padding.ignored = true) :
    ∃ placed member later, declared = placed ++ member :: later ∧
      ((context.placeAll placed).context.reconcile member.offset).padding = some padding := by
  induction declared generalizing context with
  | nil => cases inside
  | cons first rest ih =>
      simp only [placeAll, place, Item.members_append, List.mem_append] at inside
      rcases inside with (before | itself) | later
      · rw [reconcile, Tally.members_items_reconcile, Option.mem_toList] at before
        exact ⟨[], first, rest, rfl, before⟩
      · obtain rfl : padding = first := List.mem_singleton.mp itself
        rw [matter padding (by simp)] at fills
        cases fills
      · obtain ⟨placed, member, others, rfl, found⟩ :=
          ih (fun other among => matter other (List.mem_cons_of_mem first among)) later
        exact ⟨first :: placed, member, others, rfl, found⟩

theorem adjoins_declaredBy {context : Context} {line : SourceLine} {next : Option SourceLine}
    {first : Member} {rest : List Member}
    (declares : context.declaredBy line next = first :: rest) :
    Cursor.Adjoins ⟨first.offset, first.size⟩ rest := by
  unfold declaredBy at declares
  split at declares
  · cases declares
  · split at declares
    · next reading log reads => exact (context.read_declares reads).adjoins first rest declares
    · cases declares

theorem adjoins_placeAll {context : Context} {front back : List Member}
    (adjoins : context.tally.cursor.Adjoins (front ++ back)) :
    (context.placeAll front).context.tally.cursor.Adjoins back := by
  induction front generalizing context with
  | nil => exact adjoins
  | cons member front ih => exact ih adjoins.2

/-- Only the first member of a line can lie behind a gap. -/
theorem eq_nil_of_gap {context : Context} {line : SourceLine} {next : Option SourceLine}
    {placed later : List Member} {member : Member}
    (declares : context.declaredBy line next = placed ++ member :: later)
    (gap : (context.placeAll placed).context.tally.cursor.stop.toInt < member.offset.toInt) :
    placed = [] := by
  cases placed with
  | nil => rfl
  | cons first placed =>
      have adjoins :
          (context.place first).context.tally.cursor.Adjoins (placed ++ member :: later) :=
        adjoins_declaredBy declares
      exact absurd gap (Int.not_lt.mpr (adjoins_placeAll adjoins).1)

/-! ## The last line that declared members -/

/-- Of some lines that others follow, the last one that declared members, with its report. -/
def lastDeclaring? (start : Context) (front back : List SourceLine) :
    Option (SourceLine × LineReport) :=
  ((front.zip (start.transcribe (front ++ back)).reports).filter fun (_, report) =>
    report.declares).getLast?

theorem lastDeclaring?_concat (start : Context) (front : List SourceLine) (line : SourceLine)
    (back : List SourceLine) :
    let report := ((start.after front (line :: back)).step line back.head?).report
    start.lastDeclaring? (front ++ [line]) back =
      if report.declares then some (line, report)
      else start.lastDeclaring? front (line :: back) := by
  intro report
  obtain ⟨reports, count, whole⟩ := start.exists_reports_transcribe_append front (line :: back)
  have behind : ((start.after front (line :: back)).transcribe (line :: back)).reports =
      report :: (((start.after front (line :: back)).step line back.head?).context.transcribe
        back).reports := rfl
  have split : front ++ [line] ++ back = front ++ line :: back := by simp
  have alone : front.zip (reports ++ ((start.after front (line :: back)).transcribe
      (line :: back)).reports) = front.zip reports := by
    simpa using @List.zip_append _ _ front [] reports _ count.symm
  unfold lastDeclaring?
  rw [split, whole, alone, behind, List.zip_append count.symm, List.filter_append]
  by_cases declares : report.declares = true
  · simp [declares]
  · simp [declares]

/-- What a context knows about the last line that declared members. -/
structure Recalls (context : Context) (last : Option (SourceLine × LineReport)) : Prop where
  previousLine : context.previousLine = last.map fun (line, _) => line.text
  declared : ∀ line report, last = some (line, report) → ∃ earlier : Context, ∃ next,
    report = (earlier.step line next).report ∧ earlier.declaredBy line next ≠ [] ∧
      context.tally.cursor = (earlier.step line next).context.tally.cursor

/-- A line is recalled if it declares members, and lets recall the one before it if not. -/
theorem Recalls.step {context : Context} {last : Option (SourceLine × LineReport)}
    (recalls : context.Recalls last) (line : SourceLine) (next : Option SourceLine) :
    (context.step line next).context.Recalls
      (if (context.step line next).report.declares then some (line, (context.step line next).report)
      else last) := by
  have declares := context.declares_step_iff line next
  have previous := context.previousLine_step line next
  by_cases empty : context.declaredBy line next = []
  · rw [if_pos empty] at previous
    rw [if_neg fun spoken => declares.mp spoken empty]
    refine ⟨previous.trans recalls.previousLine, fun copy report same => ?_⟩
    obtain ⟨earlier, other, made, filled, cursor⟩ := recalls.declared copy report same
    have tally := (context.step_places line next).tally
    rw [empty] at tally
    exact ⟨earlier, other, made, filled, (congrArg Tally.cursor tally).trans cursor⟩
  · rw [if_neg empty] at previous
    rw [if_pos (declares.mpr empty)]
    refine ⟨previous, fun copy report same => ?_⟩
    cases same
    exact ⟨context, next, rfl, empty, rfl⟩

theorem recalls_after {start : Context} (untouched : start.previousLine = none)
    (front back : List SourceLine) :
    (start.after front back).Recalls (start.lastDeclaring? front back) := by
  induction front using List.reverseRecOn generalizing back with
  | nil => exact ⟨untouched, fun _ _ same => by cases same⟩
  | append_singleton front line ih =>
      rw [after_concat, lastDeclaring?_concat]
      exact (ih (line :: back)).step line back.head?

/-- The hint of a string tells exactly whether the last line that declared members was a copy. -/
theorem Recalls.afterString_iff {context : Context} {last : Option (SourceLine × LineReport)}
    (recalls : context.Recalls last) :
    context.afterString = true ↔
      ∃ copy report, last = some (copy, report) ∧ LineKind.ofLine copy.characters = .copy := by
  rw [afterString, recalls.previousLine]
  constructor
  · intro names
    cases last with
    | none => cases names
    | some pair =>
        obtain ⟨copy, report⟩ := pair
        obtain ⟨earlier, next, -, filled, -⟩ := recalls.declared copy report rfl
        exact ⟨copy, report, rfl, ofLine_eq_copy names filled⟩
  · rintro ⟨copy, report, rfl, copies⟩
    exact isCopy_of_copy copies

theorem Recalls.exists_string {context : Context} {copy : SourceLine} {report : LineReport}
    (recalls : context.Recalls (some (copy, report)))
    (copies : LineKind.ofLine copy.characters = .copy) :
    ∃ string, Item.ordinary report.items = [string] ∧ string.type = .string ∧
      context.tally.cursor = ⟨string.offset, string.size⟩ := by
  obtain ⟨earlier, next, rfl, filled, cursor⟩ := recalls.declared copy report rfl
  obtain ⟨string, single, type⟩ := exists_string_of_copy copies filled
  exact ⟨string, by rw [ordinary_step, single], type,
    cursor.trans (cursor_step_of_singleton single)⟩

/-! ## The lines of a body -/

/-- The last line that declared members was a copy, and a cursor stands at its string. -/
def StandsAtCopy (last : Option (SourceLine × LineReport)) (cursor : Cursor) : Prop :=
  ∃ copy report string, last = some (copy, report) ∧ LineKind.ofLine copy.characters = .copy ∧
    Item.ordinary report.items = [string] ∧ string.type = .string ∧
    cursor = ⟨string.offset, string.size⟩

/-- How strings are blamed while the members of a line are placed. -/
structure BlamesRightly (start : Context) (front : List SourceLine) (line : SourceLine)
    (back : List SourceLine) (report : LineReport) : Prop where
  /-- Whether the first member of the line comes behind a string. -/
  afterString_iff : (start.after front (line :: back)).afterString = true ↔
    ∃ copy copied, start.lastDeclaring? front (line :: back) = some (copy, copied) ∧
      LineKind.ofLine copy.characters = .copy
  /-- Every member of the line is reconciled behind the others. -/
  blamed : ∀ placed member later, Item.ordinary report.items = placed ++ member :: later →
    let reached := ((start.after front (line :: back)).settle.placeAll placed).context
    (reached.reconcile member.offset).BlamesString →
      placed = [] ∧
        StandsAtCopy (start.lastDeclaring? front (line :: back)) reached.tally.cursor
  /-- What is written about strings comes from there. -/
  written : ∀ padding ∈ Item.members report.items, padding.ignored = true →
    padding.BlamesString →
      StandsAtCopy (start.lastDeclaring? front (line :: back))
        (start.after front (line :: back)).tally.cursor

/-- A string is blamed at the first member of a line, with the cursor where the line found it. -/
theorem standsAtCopy_of_blamesString {context : Context} {last : Option (SourceLine × LineReport)}
    (recalls : context.Recalls last) {line : SourceLine} {next : Option SourceLine}
    {placed later : List Member} {member : Member}
    (declares : context.declaredBy line next = placed ++ member :: later)
    (blames : ((context.settle.placeAll placed).context.reconcile member.offset).BlamesString) :
    placed = [] ∧ StandsAtCopy last context.tally.cursor := by
  obtain ⟨behind, gap⟩ := Tally.hints_of_blamesString blames
  rw [context_placeAll] at behind
  have first : placed = [] := by
    refine eq_nil_of_gap declares ?_
    rw [tally_placeAll] at gap ⊢
    exact gap
  obtain ⟨copy, report, rfl, copies⟩ := recalls.afterString_iff.mp behind
  obtain ⟨string, single, type, cursor⟩ := recalls.exists_string copies
  exact ⟨first, copy, report, string, rfl, copies, single, type, cursor⟩

theorem blamesRightly_after {start : Context} (untouched : start.previousLine = none)
    (front : List SourceLine) (line : SourceLine) (back : List SourceLine) :
    start.BlamesRightly front line back
      ((start.after front (line :: back)).step line back.head?).report := by
  have recalls := recalls_after untouched front (line :: back)
  refine ⟨recalls.afterString_iff, fun placed member later split blames => ?_,
    fun padding inside fills blames => ?_⟩
  · rw [ordinary_step] at split
    obtain ⟨rfl, stands⟩ := standsAtCopy_of_blamesString recalls split blames
    exact ⟨rfl, stands⟩
  · rw [members_step] at inside
    obtain ⟨placed, member, later, split, found⟩ :=
      exists_reconcile_of_padding (fun _ among => declaredBy_ordinary among) inside fills
    exact (standsAtCopy_of_blamesString recalls split (.inr ⟨padding, found, blames⟩)).2

end Context

/-- In every reconstruction that returns a class, the first member of a line comes behind a string
exactly if the last line that declared members was taken as a copy, whatever lines stand between
them; and a gap is absorbed or put down to a string only before the first member of a line, while
the cursor stands at the string of that copy. -/
theorem blamesRightly_of_reconstruct {style : Style} {heuristics : Heuristics}
    {fingerprint : String → UInt32} {lines : List SourceLine} {stub : Stub}
    (returns : (reconstruct style heuristics fingerprint lines).result = .ok (some stub)) :
    ∃ signature body, stub.ComesFrom style heuristics lines signature body ∧
      ∀ front line back, body = front ++ line :: back →
        ∃ report,
          ((style.start heuristics lines).transcribe body).reports[front.length]? = some report ∧
            (style.start heuristics lines).BlamesRightly front line back report := by
  obtain ⟨signature, body, comes⟩ := exists_comesFrom_of_reconstruct returns
  refine ⟨signature, body, comes, ?_⟩
  rintro front line back rfl
  have untouched : (style.start heuristics lines).previousLine = none :=
    previousLine_applyDirectives ..
  exact ⟨_, Context.getElem?_reports_transcribe _ front line back,
    Context.blamesRightly_after untouched front line back⟩

/-- Four bytes behind a string, with a loop, a directive and an empty line between it and the two
halves of a packed number. -/
theorem blamesRightly_of_reconstruct_packed :
    let lines := SourceLine.ofTexts
      ["void f(int a1)", "  strncpy(a1, \"abc\", 4);", "  while ( 1 )", "#logsize", "",
        "  *(_QWORD *)(a1 + 8) = 0x4000000040000000;"]
    let start := Style.start {} {} lines
    ∃ stub signature body front line back report padding,
      (reconstruct {} {} (fun _ => 0) lines).result = .ok (some stub) ∧
      stub.ComesFrom {} {} lines signature body ∧ body = front ++ line :: back ∧
      front.length = 4 ∧ start.BlamesRightly front line back report ∧
      padding ∈ Item.members report.items ∧ padding.BlamesString ∧
      Context.StandsAtCopy (start.lastDeclaring? front (line :: back)) ⟨⟨0⟩, ⟨4⟩⟩ := by
  intro lines start
  have returned : (reconstruct {} {} (fun _ => 0) lines).result.toOption.join.isSome = true := by
    decide +kernel
  obtain ⟨stub, found⟩ := Option.isSome_iff_exists.mp returned
  have returns := eq_ok_of_toOption found
  obtain ⟨signature, body, comes, rightly⟩ := blamesRightly_of_reconstruct returns
  have whole : Stub.fromSignature lines = lines := by decide +kernel
  obtain ⟨-, rfl⟩ := List.cons.inj (whole.symm.trans comes.signed)
  obtain ⟨report, reported, blames⟩ :=
    rightly [lines[1], lines[2], lines[3], lines[4]] lines[5] [] rfl
  have check : (start.transcribe lines.tail).reports[4]?.any (fun report =>
      (Item.members report.items).any fun padding => padding.ignored && decide
        ("string at " ++ (Offset.mk 0).text ++
          " may use fewer bytes than its declared size (string underuse)" ∈ padding.notes)) =
        true := by decide +kernel
  obtain ⟨other, same, shown⟩ := (Option.any_eq_true _ _).mp check
  obtain rfl : report = other := Option.some.inj (reported.symm.trans same)
  obtain ⟨padding, inside, meets⟩ := List.any_eq_true.mp shown
  obtain ⟨fills, noted⟩ := Bool.and_eq_true_iff.mp meets
  have blamed : padding.BlamesString := ⟨⟨0⟩, of_decide_eq_true noted⟩
  have cursor : (start.after [lines[1], lines[2], lines[3], lines[4]] [lines[5]]).tally.cursor =
      ⟨⟨0⟩, ⟨4⟩⟩ := by decide +kernel
  refine ⟨stub, signature, _, _, _, _, report, padding, returns, comes, rfl, rfl, blames, inside,
    blamed, ?_⟩
  rw [← cursor]
  exact blames.written padding inside fills blamed

end LayoutRecovery
