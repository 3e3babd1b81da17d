import LayoutRecovery.Proofs.Placement.Tiling
import LayoutRecovery.Proofs.Presentation.Comparison

/-!
# Absorbed slack

Where slack is absorbed, the accumulated size counts bytes that no member declares.  They lie
directly behind strings: without conflict, each member starts where the one before it ends, or
further on if that one is a string, and the sizes of all members fall short of the accumulated size
by these bytes.  The passages of the body show this from the same class with nothing absorbed, whose
members tile.
-/

namespace LayoutRecovery

/-- Members behind each other up to a limit, with a number of bytes in all before them that no
member declares.  Such bytes lie only directly behind strings. -/
inductive Slackens : Option Member → Int → List Member → Int → Nat → Prop
  | nil {last : Option Member} {limit : Int} : Slackens last limit [] limit 0
  | cons {last : Option Member} {start limit : Int} {member : Member} {rest : List Member}
      {slack absorbed : Nat} (starts : member.offset.toInt = start + slack)
      (behind : slack ≠ 0 → ∃ string, last = some string ∧ string.type = .string)
      (others : Slackens (some member) member.limit rest limit absorbed) :
      Slackens last start (member :: rest) limit (slack + absorbed)

theorem Slackens.declaredBytes_add {last : Option Member} {start limit : Int}
    {members : List Member} {absorbed : Nat}
    (slackens : Slackens last start members limit absorbed) :
    (declaredBytes members + absorbed : Int) = limit - start := by
  induction slackens with
  | nil => simp [declaredBytes]
  | @cons _ start limit member rest slack absorbed starts _ _ ih =>
      simp only [declaredBytes, List.map_cons, List.sum_cons, Member.limit] at ih ⊢
      omega

theorem slackens_append {last : Option Member} {start middle limit : Int}
    {left right : List Member} {absorbed : Nat} (tiles : Tiles start left middle)
    (others : Slackens (left.getLast?.or last) middle right limit absorbed) :
    Slackens last start (left ++ right) limit absorbed := by
  induction left generalizing last start with
  | nil =>
      have same : start = middle := tiles
      rw [same]
      exact others
  | cons member rest ih =>
      obtain ⟨starts, later⟩ := tiles
      have ends : (member :: rest).getLast?.or last = rest.getLast?.or (some member) := by
        rw [List.getLast?_cons]
        cases rest.getLast? <;> rfl
      rw [ends] at others
      rw [← Nat.zero_add absorbed]
      exact .cons (by simp [starts]) (fun some_slack => absurd rfl some_slack) (ih later others)

theorem exists_tiles_of_append {start finish : Int} {left right : List Member}
    (tiles : Tiles start (left ++ right) finish) :
    ∃ middle, Tiles start left middle ∧ Tiles middle right finish := by
  induction left generalizing start with
  | nil => exact ⟨start, rfl, tiles⟩
  | cons member rest ih =>
      obtain ⟨middle, front, back⟩ := ih tiles.2
      exact ⟨middle, ⟨tiles.1, front⟩, back⟩

namespace Passage

/-- Without the padding behind strings, members that tile leave its bytes open. -/
theorem Course.exists_slackens {last : Option Member} {passages : List Passage}
    (course : Course last passages) {start finish : Int} {reports : Bool}
    (tiles : Tiles start (Item.members (passages.flatMap (items false reports))) finish) :
    ∃ absorbed, Slackens last start (Item.members (passages.flatMap (items true reports))) finish
      absorbed := by
  induction passages generalizing last start with
  | nil =>
      have same : start = finish := tiles
      rw [same]
      exact ⟨0, .nil⟩
  | cons passage rest ih =>
      obtain ⟨fits, later⟩ := course
      rw [List.flatMap_cons, Item.members_append, members_items fits] at tiles ⊢
      obtain ⟨middle, here, behind⟩ := exists_tiles_of_append tiles
      obtain ⟨absorbed, others⟩ := ih later behind
      obtain nothing | ⟨filled, string, tally, gap, ends, type, -, padded⟩ := fits.slack
      · rw [nothing] at here
        exact ⟨absorbed, slackens_append here others⟩
      · obtain ⟨first, more, members⟩ := List.exists_cons_of_ne_nil filled
        rw [padded, members] at here
        obtain ⟨starts, stands, here⟩ := here
        have starts_behind : first.offset.toInt =
            start + (tally.padding gap true).size.toNat := by
          rw [stands, Member.limit, starts]
        have behind_more : Slackens (more.getLast?.or (some first)) middle
            (Item.members (rest.flatMap (items true reports))) finish absorbed := by
          rw [last?, members, List.getLast?_cons] at others
          cases last_more : more.getLast? <;> simpa [last_more] using others
        rw [members]
        exact ⟨_, .cons starts_behind (fun _ => ⟨string, ends, type⟩)
          (slackens_append here behind_more)⟩

theorem quiet_items {passage : Passage} {last : Option Member} (fits : passage.Fits last)
    {reports : Bool} (quiet : Item.Quiet (passage.items true reports)) :
    Item.Quiet (passage.items false reports) := by
  have slack : Item.Quiet passage.slack := by
    obtain nothing | ⟨-, string, tally, gap, -, -, -, padded⟩ := fits.slack
    · rw [nothing]
      simp [Item.Quiet]
    · rw [padded]
      simp [Item.Quiet]
  simp only [items, Item.quiet_append] at quiet ⊢
  exact ⟨⟨⟨⟨quiet.1.1.1.1, slack⟩, quiet.1.1.2⟩, quiet.1.2⟩, quiet.2⟩

theorem Course.orderly {last : Option Member} {passages : List Passage}
    (course : Course last passages) {reports : Bool}
    (orderly : Item.Orderly (passages.flatMap (items true reports))) :
    Item.Orderly (passages.flatMap (items false reports)) where
  quiet := by
    have quiet : Item.Quiet (passages.flatMap (items true reports)) := orderly.quiet
    change Item.Quiet _
    clear orderly
    induction passages generalizing last with
    | nil => exact quiet
    | cons passage rest ih =>
        obtain ⟨fits, later⟩ := course
        rw [List.flatMap_cons, Item.quiet_append] at quiet ⊢
        exact ⟨quiet_items fits quiet.1, ih later quiet.2⟩
  bounded member inside ordinary := by
    have same := (course.ordinary_eq false reports).trans (course.ordinary_eq true reports).symm
    have shown : member ∈ Item.ordinary (passages.flatMap (items true reports)) := by
      rw [← same]
      exact List.mem_filter.mpr ⟨inside, by simp [ordinary]⟩
    exact orderly.bounded member (List.mem_filter.mp shown).1 ordinary

end Passage

/-- A class whose lines are read from the start of the structure on declares all but slack. -/
theorem exists_slackens_ofTranscript {context : Context} {header : Header}
    {lines : List SourceLine} (untouched : context.tally = Tally.start)
    (follows : context.Follows none) (same : header.declaredSize = context.declaredSize)
    (absorbing : context.hints.absorbsSlack = true)
    (orderly : Item.Orderly (Stub.ofTranscript header (context.transcribe lines)).body) :
    let stub := Stub.ofTranscript header (context.transcribe lines)
    ∃ placed ending absorbed, Item.members stub.body = placed ++ ending ∧ stub.Closes ending ∧
      Slackens none 0 placed stub.accumulated.toNat absorbed := by
  intro stub
  let reports := context.heuristics.reportSizes
  obtain ⟨passages, course, -, items⟩ := context.exists_course_transcribe follows lines
  -- the same lines with nothing absorbed tile, and lead to the same tally
  have shown : (context.transcribe lines).items =
      passages.flatMap (Passage.items true reports) := by
    have own := items context.heuristics.absorbSlack reports
    rw [show (context.heuristics.absorbSlack && context.heuristics.skipTerminators) = true from
      absorbing] at own
    exact own
  have plain := items false reports
  have settled := context.transcribe_presenting false reports lines
  have body_orderly := (Item.orderly_of_append (Item.orderly_of_append orderly).1).1
  rw [shown] at body_orderly
  have plain_orderly := course.orderly body_orderly
  rw [Bool.false_and] at plain
  rw [← plain] at plain_orderly
  have contiguous : (context.presenting false reports).tally.Contiguous := by
    rw [Context.tally_presenting, untouched]
    exact Tally.contiguous_start
  have continues := Context.continues_transcribe contiguous rfl plain_orderly
  rw [settled, Context.tally_presenting, Context.tally_presenting] at continues
  have counted := continues.contiguous.accumulated_eq
  have inside := continues.contiguous.limit_le
  have tiles := continues.tiles
  rw [← counted] at inside tiles
  rw [untouched, plain] at tiles
  obtain ⟨absorbed, slackens⟩ := course.exists_slackens tiles
  rw [← shown] at slackens
  have closes := Stub.closes_ofTranscript inside
    (same.trans (context.declaredSize_transcribe lines).symm)
  exact ⟨_, _, absorbed, Stub.members_ofTranscript _ _, closes, slackens⟩

/-- If slack is absorbed and no conflict reported, the members before the end padding stand behind
each other, apart from bytes directly behind strings that none of them declares; the accumulated
size counts these bytes too. -/
theorem slackens_reconstruct (style : Style) (heuristics : Heuristics)
    (fingerprint : String → UInt32) (lines : List SourceLine) (stub : Stub)
    (returns : (reconstruct style heuristics fingerprint lines).result = .ok (some stub))
    (absorbing : (style.start heuristics lines).hints.absorbsSlack = true)
    (orderly : Item.Orderly stub.body) :
    ∃ placed ending absorbed, Item.members stub.body = placed ++ ending ∧ stub.Closes ending ∧
      Slackens none 0 placed stub.accumulated.toNat absorbed ∧
      declaredBytes placed + absorbed = stub.accumulated.toNat := by
  obtain ⟨signature, body, comes⟩ := exists_comesFrom_of_reconstruct returns
  obtain ⟨header, same, rfl⟩ := comes.transcribed
  have untouched : (style.start heuristics lines).tally = Tally.start := tally_applyDirectives ..
  have follows := follows_start style heuristics lines
  obtain ⟨placed, ending, absorbed, members, closes, slackens⟩ :=
    exists_slackens_ofTranscript untouched follows same absorbing orderly
  have counted := slackens.declaredBytes_add
  exact ⟨placed, ending, absorbed, members, closes, slackens, by omega⟩

/-- A string of sixteen bytes in front of a number at offset twenty leaves four bytes open. -/
theorem slackens_reconstruct_twenty :
    let lines := SourceLine.ofTexts
      ["#strfixup", "#size 32", "void sub_1(a1)", "  strncpy(a1 + 0, \"abc\", 0x10ui64);",
        "  *(_BYTE *)(a1 + 15) = 0;", "  *(_DWORD *)(a1 + 20) = 0;"]
    ∃ stub, (reconstruct {} {} (fun _ => 0) lines).result = .ok (some stub) ∧
      (Style.start {} {} lines).hints.absorbsSlack = true ∧ Item.Orderly stub.body ∧
      ∃ placed ending absorbed, Item.members stub.body = placed ++ ending ∧ stub.Closes ending ∧
        Slackens none 0 placed 24 absorbed ∧ declaredBytes placed + absorbed = 24 := by
  intro lines
  have check : (reconstruct {} {} (fun _ => 0) lines).result.toOption.join.any (fun stub =>
      decide (Item.Orderly stub.body ∧ stub.accumulated.toNat = 24)) = true := by decide +kernel
  have absorbing : (Style.start {} {} lines).hints.absorbsSlack = true := by decide +kernel
  obtain ⟨stub, found, meets⟩ := (Option.any_eq_true _ _).mp check
  obtain ⟨orderly, counted⟩ := of_decide_eq_true meets
  have returns := eq_ok_of_toOption found
  have settled := slackens_reconstruct {} {} (fun _ => 0) lines stub returns absorbing orderly
  simp only [counted] at settled
  exact ⟨stub, returns, absorbing, orderly, settled⟩

/-- The bytes behind a string are in the accumulated size and in no member: the string keeps the
size of its copy. -/
theorem declaredBytes_lt_accumulated_behind_string :
    let lines := SourceLine.ofTexts
      ["#strfixup", "void sub_1(a1)", "  strncpy(a1 + 0, \"abc\", 0x10ui64);",
        "  *(_DWORD *)(a1 + 20) = 5;"]
    ∃ stub, (reconstruct {} {} (fun _ => 0) lines).result = .ok (some stub) ∧
      (Style.start {} {} lines).hints.absorbsSlack = true ∧ Item.Orderly stub.body ∧
      stub.header.declaredSize = none ∧ declaredBytes (Item.members stub.body) = 20 ∧
      stub.accumulated.toNat = 24 := by
  intro lines
  have check : (reconstruct {} {} (fun _ => 0) lines).result.toOption.join.any (fun stub =>
      decide (Item.Orderly stub.body ∧ stub.header.declaredSize = none ∧
        declaredBytes (Item.members stub.body) = 20 ∧ stub.accumulated.toNat = 24)) = true := by
    decide +kernel
  have absorbing : (Style.start {} {} lines).hints.absorbsSlack = true := by decide +kernel
  obtain ⟨stub, found, meets⟩ := (Option.any_eq_true _ _).mp check
  exact ⟨stub, eq_ok_of_toOption found, absorbing, of_decide_eq_true meets⟩

end LayoutRecovery
