import LayoutRecovery.Proofs.Presentation.Choice
import LayoutRecovery.Proofs.Reconciliation.Gap

/-!
# Passages

What each body line adds to a class, with the pieces set apart that a choice of presentation leaves
out: the padding of a gap behind a string, which absorbing slack leaves out, and the accumulated
size behind the members, which is only shown on demand.  The passages of a body are the same for all
choices, so that two classes of one input differ in nothing but these pieces.
-/

namespace LayoutRecovery

/-! ## Padding and totals apart from the rest -/

namespace Item

/-- The accumulated size that an item gives, if it gives one. -/
def total? : Item → Option Size
  | .remark (.accumulated size) => some size
  | _ => none

/-- The accumulated sizes among items. -/
def totals (items : List Item) : List Size :=
  items.filterMap total?

theorem totals_append (front back : List Item) :
    totals (front ++ back) = totals front ++ totals back :=
  List.filterMap_append

end Item

namespace Tally

/-- The report of the conflict of a member at an offset. -/
def warning (tally : Tally) (offset : Offset) : List Item :=
  ((tally.conflict? offset).map fun conflict => Item.remark (.conflict conflict)).toList

/-- The padding before a member at an offset, between empty lines, if there is a gap. -/
def filler (tally : Tally) (afterString : Bool) (offset : Offset) : List Item :=
  if (tally.cursor.gapTo offset).toNat = 0 then []
  else [.blank, .member (tally.padding (tally.cursor.gapTo offset).toNat afterString), .blank]

theorem items_reconcile (tally : Tally) (hints : Hints) (offset : Offset) :
    (tally.reconcile hints offset).items =
      tally.warning offset ++
        if hints.absorbsSlack && hints.afterString then []
        else tally.filler hints.afterString offset := by
  simp only [Reconciliation.items, reconcile, warning, filler]
  congr 1
  by_cases empty : (tally.cursor.gapTo offset).toNat = 0
  · simp [empty]
  · cases hints.absorbsSlack && hints.afterString <;> simp [empty]

theorem members_warning (tally : Tally) (offset : Offset) :
    Item.members (tally.warning offset) = [] := by
  unfold warning
  cases tally.conflict? offset <;> rfl

theorem totals_warning (tally : Tally) (offset : Offset) :
    Item.totals (tally.warning offset) = [] := by
  unfold warning
  cases tally.conflict? offset <;> rfl

theorem totals_filler (tally : Tally) (absent afterString : Bool) (offset : Offset) :
    Item.totals (if absent then [] else tally.filler afterString offset) = [] := by
  unfold filler
  split_ifs <;> rfl

end Tally

namespace SourceLine

theorem members_copyItems (line : SourceLine) : Item.members line.copyItems = [] := by
  unfold copyItems
  split <;> rfl

theorem totals_copyItems (line : SourceLine) : Item.totals line.copyItems = [] := by
  unfold copyItems
  split <;> rfl

end SourceLine

namespace Context

theorem tally_place_congr {left right : Context} (same : left.tally = right.tally)
    (member : Member) : (left.place member).context.tally = (right.place member).context.tally := by
  show left.tally.place _ _ _ = right.tally.place _ _ _
  rw [same]
  exact Tally.place_eq_place ..

/-- Members that leave no gap are placed alike whatever is known about the members before. -/
theorem items_placeAll_of_adjoins {left right : Context} (same : left.tally = right.tally)
    {members : List Member} (adjoins : left.tally.cursor.Adjoins members) :
    (left.placeAll members).items = (right.placeAll members).items := by
  induction members generalizing left right with
  | nil => rfl
  | cons member rest ih =>
      obtain ⟨closed, others⟩ := adjoins
      have later := ih (tally_place_congr same member) others
      simp only [placeAll, place, reconcile] at later ⊢
      rw [Tally.items_reconcile_of_no_gap _ closed, later, same]
      rw [same] at closed
      rw [Tally.items_reconcile_of_no_gap _ closed]

theorem members_placeAll_of_adjoins (context : Context) {members : List Member}
    (adjoins : context.tally.cursor.Adjoins members) :
    Item.members (context.placeAll members).items = members := by
  induction members generalizing context with
  | nil => rfl
  | cons member rest ih =>
      obtain ⟨closed, others⟩ := adjoins
      have warned : Item.members (context.reconcile member.offset).items = [] := by
        rw [reconcile, Tally.items_reconcile_of_no_gap _ closed]
        exact context.tally.members_warning member.offset
      have later := ih (context.place member).context others
      rw [placeAll, Item.members_append, later, place, Item.members_append, warned]
      rfl

/-- No accumulated size is given between the members of a line. -/
theorem totals_placeAll (context : Context) (members : List Member) :
    Item.totals (context.placeAll members).items = [] := by
  induction members generalizing context with
  | nil => rfl
  | cons member rest ih =>
      have above : Item.totals (context.reconcile member.offset).items = [] := by
        rw [reconcile, Tally.items_reconcile, Item.totals_append, Tally.totals_warning,
          Tally.totals_filler]
        rfl
      rw [placeAll, Item.totals_append, ih, place, Item.totals_append, above]
      rfl

end Context

/-! ## Passages -/

/-- What a body line adds to a class, with the pieces apart that a presentation can leave out. -/
structure Passage where
  /-- What stands above the padding of a gap behind a string. -/
  opening : List Item
  /-- The padding of a gap behind a string. -/
  slack : List Item
  /-- The members of the line, or what else it says. -/
  pieces : List Item
  /-- The accumulated size. -/
  total : List Item
  /-- The copy of the line. -/
  origin : List Item

namespace Passage

/-- The pieces that are shown. -/
def items (absorbs reports : Bool) (passage : Passage) : List Item :=
  passage.opening ++ (if absorbs then [] else passage.slack) ++ passage.pieces ++
    (if reports then passage.total else []) ++ passage.origin

/-- A passage that nothing is left out of. -/
def plain (pieces origin : List Item) : Passage :=
  { opening := [], slack := [], pieces, total := [], origin }

/-- The passage of a line that declares members in a context. -/
def ofMembers (context : Context) (opening : List Item) (first : Member) (rest : List Member)
    (origin : List Item) : Passage :=
  let filler := context.tally.filler context.afterString first.offset
  let others := (context.place first).context.placeAll rest
  { opening := opening ++ context.tally.warning first.offset
    slack := if context.afterString then filler else []
    pieces := (if context.afterString then [] else filler) ++ .member first :: others.items
    total := [.remark (.accumulated others.context.tally.accumulated)]
    origin }

/-- A passage behind a member, if there is one. -/
structure Fits (passage : Passage) (last : Option Member) : Prop where
  /-- Nothing above the slack declares a member. -/
  opening : Item.members passage.opening = []
  /-- What is left out as slack is the padding between a string and a member. -/
  slack : passage.slack = [] ∨ Item.members passage.pieces ≠ [] ∧
    ∃ string tally gap, last = some string ∧ string.type = .string ∧
      tally.cursor = ⟨string.offset, string.size⟩ ∧
      passage.slack = [.blank, .member (Tally.padding tally gap true), .blank]
  /-- All padding behind a string is left out. -/
  padded : ∀ string, last = some string → string.type = .string →
    ∀ member ∈ Item.members passage.pieces, member.ignored = false
  /-- The accumulated size is given once behind members, and not without them. -/
  total : Item.members passage.pieces = [] ∧ passage.total = [] ∨
    Item.members passage.pieces ≠ [] ∧ ∃ size, passage.total = [.remark (.accumulated size)]
  /-- No other piece gives an accumulated size. -/
  others : Item.totals (passage.opening ++ passage.pieces ++ passage.origin) = []
  origin : Item.members passage.origin = []

/-- The last member that a passage declares. -/
def last? (passage : Passage) : Option Member :=
  (Item.members passage.pieces).getLast?

theorem members_items {passage : Passage} {last : Option Member} (fits : passage.Fits last)
    (absorbs reports : Bool) :
    Item.members (passage.items absorbs reports) =
      Item.members (if absorbs then [] else passage.slack) ++ Item.members passage.pieces := by
  have total : Item.members (if reports then passage.total else []) = [] := by
    obtain ⟨-, none⟩ | ⟨-, size, one⟩ := fits.total
    · rw [none, ite_self]
      rfl
    · rw [one]
      cases reports <;> rfl
  simp only [items, Item.members_append, fits.opening, fits.origin, total, List.nil_append,
    List.append_nil]

/-- Whatever is left out, the last member of a passage is shown. -/
theorem getLast?_members_items {passage : Passage} {last : Option Member}
    (fits : passage.Fits last) (absorbs reports : Bool) :
    (Item.members (passage.items absorbs reports)).getLast? = passage.last? := by
  rw [members_items fits, List.getLast?_append, last?]
  obtain nothing | ⟨filled, -⟩ := fits.slack
  · rw [nothing, ite_self]
    exact Option.or_none
  · rw [List.getLast?_eq_some_getLast filled]
    rfl

/-- A passage that shows a line in a context, whatever is chosen. -/
structure Shows (passage : Passage) (context : Context) (line : SourceLine)
    (next : Option SourceLine) : Prop where
  last : passage.last? = (context.declaredBy line next).getLast?
  items : ∀ absorbs reports, ((context.presenting absorbs reports).step line next).report.items =
    passage.items (absorbs && context.heuristics.skipTerminators) reports

theorem fits_plain {pieces origin : List Item} (silent : Item.members pieces = [])
    (copied : Item.members origin = []) (others : Item.totals (pieces ++ origin) = [])
    (last : Option Member) :
    (plain pieces origin).Fits last where
  opening := rfl
  slack := .inl rfl
  padded string ends type member inside := by
    rw [show Item.members (plain pieces origin).pieces = [] from silent] at inside
    cases inside
  total := .inl ⟨silent, rfl⟩
  others := others
  origin := copied

end Passage

namespace Context

/-- The last line with members was a string copy exactly if the last member is a string, and then
the cursor stands at it. -/
structure Follows (context : Context) (last : Option Member) : Prop where
  string : context.afterString = true →
    ∃ string, last = some string ∧ string.type = .string ∧
      context.tally.cursor = ⟨string.offset, string.size⟩
  afterString : ∀ string, last = some string → string.type = .string → context.afterString = true

theorem getLast?_members_placeAll (context : Context) (members : List Member) :
    (Item.members (context.placeAll members).items).getLast? = members.getLast? := by
  induction members generalizing context with
  | nil => rfl
  | cons member rest ih =>
      have others := ih (context.place member).context
      rw [placeAll, Item.members_append, List.getLast?_append, others, place,
        Item.members_append, List.getLast?_append, List.getLast?_cons]
      cases rest.getLast? <;> rfl

theorem last?_ofMembers (context : Context) (opening : List Item) (first : Member)
    (rest : List Member) (origin : List Item) :
    (Passage.ofMembers context opening first rest origin).last? = (first :: rest).getLast? := by
  have others := getLast?_members_placeAll (context.place first).context rest
  rw [Passage.last?, Passage.ofMembers, Item.members_append, List.getLast?_append,
    ← List.singleton_append, Item.members_append, List.getLast?_append, others,
    List.getLast?_cons]
  cases rest.getLast? <;> rfl

theorem items_ofMembers {context : Context} (opening : List Item) {first : Member}
    {rest : List Member} (adjoins : Cursor.Adjoins ⟨first.offset, first.size⟩ rest)
    (origin : List Item) (absorbs reports : Bool) :
    (Passage.ofMembers context opening first rest origin).items
        (absorbs && context.heuristics.skipTerminators) reports =
      opening ++ ((context.presenting absorbs reports).placeAll (first :: rest)).items ++
        (if reports then
          [.remark (.accumulated (context.placeAll (first :: rest)).context.tally.accumulated)]
        else []) ++ origin := by
  have others : (((context.presenting absorbs reports).place first).context.placeAll rest).items =
      ((context.place first).context.placeAll rest).items := by
    apply items_placeAll_of_adjoins
    · exact tally_place_congr (context.tally_presenting absorbs reports) first
    · exact adjoins
  have above : ((context.presenting absorbs reports).reconcile first.offset).items =
      context.tally.warning first.offset ++
        if absorbs && context.heuristics.skipTerminators && context.afterString then []
        else context.tally.filler context.afterString first.offset :=
    Tally.items_reconcile ..
  simp only [Passage.items, Passage.ofMembers, placeAll, others]
  simp only [place, above]
  cases context.afterString <;> simp

theorem fits_ofMembers {context : Context} {last : Option Member} (follows : context.Follows last)
    {opening : List Item} (blank : opening = [] ∨ opening = [.blank]) {first : Member}
    {rest : List Member} (adjoins : Cursor.Adjoins ⟨first.offset, first.size⟩ rest)
    (matter : ∀ member ∈ first :: rest, member.ignored = false) (line : SourceLine) :
    (Passage.ofMembers context opening first rest line.copyItems).Fits last := by
  have filled :
      Item.members (Passage.ofMembers context opening first rest line.copyItems).pieces ≠ [] := by
    simp only [Passage.ofMembers, Item.members_append]
    simp [Item.members, Item.member?]
  have silent : Item.members opening = [] ∧ Item.totals opening = [] := by
    obtain rfl | rfl := blank <;> exact ⟨rfl, rfl⟩
  refine ⟨?_, ?_, ?_, .inr ⟨filled, _, rfl⟩, ?_, line.members_copyItems⟩
  · rw [Passage.ofMembers, Item.members_append, silent.1, Tally.members_warning]
    rfl
  · cases spoken : context.afterString with
    | false => exact .inl (by simp [Passage.ofMembers, spoken])
    | true =>
        simp only [Passage.ofMembers, spoken, if_true, Tally.filler]
        split
        · exact .inl rfl
        · obtain ⟨string, ends, type, cursor⟩ := follows.string spoken
          exact .inr ⟨by simpa [Passage.ofMembers, spoken] using filled, string, context.tally, _,
            ends, type, cursor, rfl⟩
  · intro string ends type
    have spoken := follows.afterString string ends type
    have others := (context.place first).context.members_placeAll_of_adjoins adjoins
    have declared :
        Item.members (Passage.ofMembers context opening first rest line.copyItems).pieces =
          first :: rest := by
      simp only [Passage.ofMembers, spoken, if_true, List.nil_append]
      exact congrArg (first :: ·) others
    rw [declared]
    exact matter
  · have others := (context.place first).context.totals_placeAll rest
    simp only [Passage.ofMembers, Item.totals_append, silent.2, Tally.totals_warning,
      Tally.totals_filler, line.totals_copyItems, List.nil_append, List.append_nil]
    exact others

/-- The members of a reading stand behind its opening, and the accumulated size and the copy of the
line behind them. -/
theorem items_record {context : Context} {reading : Reading} (filled : reading.declared ≠ [])
    (line : SourceLine) (kind : LineKind) (log : List LogRecord) :
    (record line kind { context.perform line reading with log }).report.items =
      reading.opening ++ (context.placeAll reading.declared).items ++
        (if context.heuristics.reportSizes then
          [.remark (.accumulated (context.placeAll reading.declared).context.tally.accumulated)]
        else []) ++ line.copyItems := by
  cases reading with
  | members opening declared =>
      simp [record, perform, Reading.opening, Reading.declared, context_placeAll]
  | terminated member =>
      have single : (context.placeAll [member]).items = (context.place member).items :=
        List.append_nil _
      show _ = [] ++ (context.placeAll [member]).items ++ _ ++ _
      rw [single]
      rfl
  | loop => exact absurd rfl filled
  | skipped reason => exact absurd rfl filled
  | unparsed => exact absurd rfl filled

/-! ## One line -/

/-- A line that names the copying function and declares something is a string copy. -/
theorem ofLine_eq_copy {context : Context} {line : SourceLine} {next : Option SourceLine}
    (names : LineKind.isCopy line.characters = true) (filled : context.declaredBy line next ≠ []) :
    LineKind.ofLine line.characters = .copy := by
  have kinds : LineKind.ofLine line.characters = .loop ∨
      LineKind.ofLine line.characters = .inert ∨ LineKind.ofLine line.characters = .copy := by
    unfold LineKind.ofLine
    split
    · exact .inl rfl
    · split
      · exact .inr (.inl rfl)
      · exact .inr (.inr rfl)
  rcases kinds with loops | inert | copies
  · exact absurd (by simp [declaredBy, loops, read, Reading.declared]) filled
  · exact absurd (by simp [declaredBy, inert, read]) filled
  · exact copies

theorem ofLine_eq_copy_of_string {context : Context} {line : SourceLine}
    {next : Option SourceLine} {member : Member} (inside : member ∈ context.declaredBy line next)
    (type : member.type = .string) : LineKind.ofLine line.characters = .copy := by
  unfold declaredBy at inside
  split at inside
  · cases inside
  · split at inside
    · next reading log reads => exact eq_copy_of_string reads inside type
    · cases inside

theorem isCopy_of_copy {line : List Char} (copies : LineKind.ofLine line = .copy) :
    LineKind.isCopy line = true := by
  by_contra other
  simp only [LineKind.ofLine] at copies
  split_ifs at copies

/-- What a line leaves to be followed: the last of its members, or else the last one before. -/
theorem follows_step {context : Context} {last : Option Member} (follows : context.Follows last)
    (line : SourceLine) (next : Option SourceLine) :
    (context.step line next).context.Follows
      ((context.declaredBy line next).getLast?.or last) := by
  have previous := context.previousLine_step line next
  by_cases empty : context.declaredBy line next = []
  · have tally := (context.step_places line next).tally
    rw [empty] at tally
    have same : (context.step line next).context.tally = context.tally := tally
    rw [if_pos empty] at previous
    rw [empty]
    refine ⟨fun spoken => ?_, fun string ends type => ?_⟩
    · rw [afterString, previous] at spoken
      rw [same]
      exact follows.string spoken
    · rw [afterString, previous]
      exact follows.afterString string ends type
  · rw [if_neg empty] at previous
    have spoken_iff : (context.step line next).context.afterString =
        LineKind.isCopy line.characters := by
      rw [afterString, previous]
      rfl
    refine ⟨fun spoken => ?_, fun string ends type => ?_⟩
    · rw [spoken_iff] at spoken
      have copies := ofLine_eq_copy spoken empty
      obtain ⟨string, single, type⟩ := exists_string_of_copy copies empty
      refine ⟨string, by rw [single]; rfl, type, cursor_step_of_singleton single⟩
    · rw [List.getLast?_eq_some_getLast empty, Option.some_or, Option.some_inj] at ends
      have inside : string ∈ context.declaredBy line next := ends ▸ List.getLast_mem empty
      rw [spoken_iff]
      exact isCopy_of_copy (ofLine_eq_copy_of_string inside type)

theorem items_step_of_passed {context : Context} {line : SourceLine} {next : Option SourceLine}
    (passed : context.suppressesNext = true ∨ Directive.isDirective line.characters = true ∨
      context.read (LineKind.ofLine line.characters) line next = none) :
    (context.step line next).report.items = line.copyItems := by
  have steps := context.steps_step line next
  generalize context.step line next = step at steps ⊢
  generalize context.declaredBy line next = declared at steps ⊢
  cases steps with
  | suppressed marked log => rfl
  | directive unmarked instructs log => rfl
  | inert unmarked body silent log => rfl
  | read unmarked body reads log => simp [unmarked, body, reads] at passed

theorem exists_record_of_read {context : Context} (unmarked : context.suppressesNext = false)
    {line : SourceLine} (body : Directive.isDirective line.characters = false)
    {next : Option SourceLine} {reading : Reading} {found : List LogRecord}
    (reads : context.read (LineKind.ofLine line.characters) line next = some (reading, found)) :
    ∃ log, context.step line next =
      record line (LineKind.ofLine line.characters) { context.perform line reading with log } := by
  have steps := context.steps_step line next
  generalize context.step line next = step at steps ⊢
  generalize context.declaredBy line next = declared at steps ⊢
  cases steps with
  | suppressed marked log => simp [unmarked] at marked
  | directive _ instructs log => simp [body] at instructs
  | inert _ _ silent log => simp [reads] at silent
  | read _ _ others log =>
      rw [reads] at others
      obtain ⟨rfl, rfl⟩ := Prod.mk.inj (Option.some.inj others)
      exact ⟨log, rfl⟩

/-- A reading without members says the same whatever is shown. -/
theorem exists_pieces_of_silent {context : Context} {reading : Reading}
    (declares : reading.Declares context) (silent : reading.declared = []) (line : SourceLine)
    (kind : LineKind) :
    ∃ pieces, Item.members pieces = [] ∧ Item.totals pieces = [] ∧
      ∀ (other : Context) (log : List LogRecord),
        (record line kind { other.perform line reading with log }).report.items =
          pieces ++ line.copyItems := by
  cases reading with
  | members opening declared => exact absurd silent (declares.filled opening declared rfl)
  | terminated member => cases silent
  | loop => exact ⟨[.blank, .remark (.loop line.trimmed)], rfl, rfl, fun _ _ => rfl⟩
  | skipped reason => exact ⟨[], rfl, rfl, fun _ _ => rfl⟩
  | unparsed => exact ⟨[], rfl, rfl, fun _ _ => rfl⟩

theorem exists_shows_of_passed {context : Context} {line : SourceLine}
    {next : Option SourceLine}
    (passed : context.suppressesNext = true ∨ Directive.isDirective line.characters = true ∨
      context.read (LineKind.ofLine line.characters) line next = none) (last : Option Member) :
    ∃ passage : Passage, passage.Fits last ∧ passage.Shows context line next := by
  refine ⟨.plain [] line.copyItems,
    Passage.fits_plain rfl line.members_copyItems line.totals_copyItems last, ?_, ?_⟩
  · have empty : context.declaredBy line next = [] := by
      rcases passed with marked | instructs | silent
      · simp [declaredBy, marked]
      · simp [declaredBy, instructs]
      · simp [declaredBy, silent]
    rw [empty]
    rfl
  · intro absorbs reports
    have still : (context.presenting absorbs reports).suppressesNext = true ∨
        Directive.isDirective line.characters = true ∨ (context.presenting absorbs reports).read
          (LineKind.ofLine line.characters) line next = none := by
      rw [read_presenting]
      exact passed
    rw [items_step_of_passed still]
    simp [Passage.items, Passage.plain]

theorem exists_shows_of_read {context : Context} {last : Option Member}
    (follows : context.Follows last) (unmarked : context.suppressesNext = false)
    {line : SourceLine} (body : Directive.isDirective line.characters = false)
    {next : Option SourceLine} {reading : Reading} {found : List LogRecord}
    (reads : context.read (LineKind.ofLine line.characters) line next = some (reading, found)) :
    ∃ passage : Passage, passage.Fits last ∧ passage.Shows context line next := by
  have declares := context.read_declares reads
  have declared : context.declaredBy line next = reading.declared := by
    simp [declaredBy, unmarked, body, reads]
  have performed : ∀ absorbs reports, ∃ log,
      (context.presenting absorbs reports).step line next =
        record line (LineKind.ofLine line.characters)
          { (context.presenting absorbs reports).perform line reading with log } := by
    intro absorbs reports
    have still : (context.presenting absorbs reports).suppressesNext = false := unmarked
    rw [← read_presenting context absorbs reports] at reads
    exact exists_record_of_read still body reads
  cases members : reading.declared with
  | nil =>
      obtain ⟨pieces, silent, untold, same⟩ :=
        exists_pieces_of_silent declares members line (LineKind.ofLine line.characters)
      have others : Item.totals (pieces ++ line.copyItems) = [] := by
        rw [Item.totals_append, untold, line.totals_copyItems]
        rfl
      refine ⟨.plain pieces line.copyItems,
        Passage.fits_plain silent line.members_copyItems others last, ?_, ?_⟩
      · rw [declared, members, Passage.last?, Passage.plain, silent]
      · intro absorbs reports
        obtain ⟨log, step⟩ := performed absorbs reports
        rw [step, same]
        simp [Passage.items, Passage.plain]
  | cons first rest =>
      have matter : ∀ member ∈ first :: rest, member.ignored = false := by
        rw [← members]
        exact (context.read_plain reads).declared
      refine ⟨.ofMembers context reading.opening first rest line.copyItems,
        fits_ofMembers follows declares.opening (declares.adjoins first rest members) matter line,
        ?_, ?_⟩
      · rw [declared, members]
        exact last?_ofMembers ..
      · intro absorbs reports
        obtain ⟨log, step⟩ := performed absorbs reports
        have filled : reading.declared ≠ [] := by simp [members]
        rw [step, items_record filled, items_ofMembers _ (declares.adjoins first rest members),
          members, tally_placeAll_presenting]
        rfl

theorem exists_shows_step {context : Context} {last : Option Member}
    (follows : context.Follows last) (line : SourceLine) (next : Option SourceLine) :
    ∃ passage : Passage, passage.Fits last ∧ passage.Shows context line next := by
  by_cases passed : context.suppressesNext = true ∨ Directive.isDirective line.characters = true ∨
      context.read (LineKind.ofLine line.characters) line next = none
  · exact exists_shows_of_passed passed last
  · simp only [not_or, Bool.not_eq_true, ← ne_eq, Option.ne_none_iff_exists'] at passed
    obtain ⟨unmarked, body, ⟨reading, found⟩, reads⟩ := passed
    exact exists_shows_of_read follows unmarked body reads

/-! ## All lines of a body -/

end Context

/-- Passages that follow each other behind a member, if there is one. -/
def Passage.Course : Option Member → List Passage → Prop
  | _, [] => True
  | last, passage :: rest => passage.Fits last ∧ Course (passage.last?.or last) rest

theorem Passage.Course.fits {last : Option Member} {front back : List Passage} {passage : Passage}
    (course : Course last (front ++ passage :: back)) (absorbs reports : Bool) :
    passage.Fits
      ((Item.members (front.flatMap (Passage.items absorbs reports))).getLast?.or last) := by
  induction front generalizing last with
  | nil => exact course.1
  | cons first front ih =>
      obtain ⟨fits, later⟩ := course
      have others := ih later
      rw [← getLast?_members_items fits absorbs reports, ← Option.or_assoc] at others
      rw [List.flatMap_cons, Item.members_append, List.getLast?_append]
      exact others

/-- How a body is shown follows from the same passages, whatever is chosen. -/
theorem Context.exists_course_transcribe {context : Context} {last : Option Member}
    (follows : context.Follows last) (lines : List SourceLine) :
    ∃ passages, Passage.Course last passages ∧
      (passages.countP fun passage => passage.last?.isSome) =
        (context.transcribe lines).parsedLines ∧
      ∀ absorbs reports, ((context.presenting absorbs reports).transcribe lines).items =
        passages.flatMap
          (Passage.items (absorbs && context.heuristics.skipTerminators) reports) := by
  induction lines generalizing context last with
  | nil => exact ⟨[], trivial, rfl, fun _ _ => rfl⟩
  | cons line rest ih =>
      obtain ⟨passage, fits, shows⟩ := exists_shows_step follows line rest.head?
      obtain ⟨passages, course, count, others⟩ := ih (follows_step follows line rest.head?)
      rw [← shows.last] at course
      refine ⟨passage :: passages, ⟨fits, course⟩, ?_, fun absorbs reports => ?_⟩
      · have declares := context.declares_step_iff line rest.head?
        rw [← List.getLast?_isSome, ← shows.last, ← Bool.eq_iff_iff] at declares
        simp only [Transcript.parsedLines, transcribe, List.countP_cons] at count ⊢
        rw [count, declares]
      have later := others absorbs reports
      have settings : (context.step line rest.head?).context.heuristics = context.heuristics :=
        (context.step_places line rest.head?).settings.heuristics
      rw [settings, ← step_presenting] at later
      rw [List.flatMap_cons, ← shows.items, ← later]
      rfl

end LayoutRecovery
