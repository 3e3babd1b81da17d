import LayoutRecovery.Config.Basic
import LayoutRecovery.Proofs.Naming.Fingerprint
import LayoutRecovery.Proofs.Naming.Stem
import LayoutRecovery.Proofs.Text.Lines

/-!
# Names as identifiers

An accepted stem is a path of identifiers, and it stays one when a token is put behind it.  The name
that this makes holds the points of the stem and no others, so that it is a single identifier
exactly if the stem holds none.  Nothing keeps points out of the stems of classes and decoded
members.
-/

namespace LayoutRecovery

namespace Config

/-! ## Paths of identifiers -/

theorem isToken_of_isIdentifier {text : List Char} (named : isIdentifier text = true) :
    Text.IsToken text := by
  cases text with
  | nil => cases named
  | cons first rest =>
      simp only [isIdentifier, Bool.and_eq_true, List.all_eq_true] at named
      refine List.forall_mem_cons.mpr ⟨?_, named.2⟩
      have start := named.1
      simp only [Text.isIdentifierStart, Bool.or_eq_true] at start
      rcases start with letter | underscore
      · simp [Text.isIdentifierCharacter, Char.isAlphanum, letter]
      · simp [Text.isIdentifierCharacter, underscore]

theorem isIdentifier_append {text tail : List Char} (named : isIdentifier text = true)
    (token : Text.IsToken tail) : isIdentifier (text ++ tail) = true := by
  cases text with
  | nil => cases named
  | cons first rest =>
      simp only [isIdentifier, Bool.and_eq_true, List.all_eq_true] at named
      simp only [List.cons_append, isIdentifier, List.all_append, Bool.and_eq_true,
        List.all_eq_true]
      exact ⟨named.1, named.2, token⟩

/-- A token behind a path of identifiers lengthens the last of them. -/
theorem isIdentifierPath_append {text tail : List Char} (named : isIdentifierPath text = true)
    (token : Text.IsToken tail) : isIdentifierPath (text ++ tail) = true := by
  have pointless : '.' ∉ tail := token.notMem (by decide)
  obtain ⟨front, last, pieces, longer⟩ := Text.exists_splitOn_append text pointless
  rw [isIdentifierPath, pieces, List.all_append, Bool.and_eq_true] at named
  rw [isIdentifierPath, longer, List.all_append, Bool.and_eq_true]
  have ending : isIdentifier last = true := by simpa using named.2
  exact ⟨named.1, by simpa using isIdentifier_append ending token⟩

/-- A path of identifiers is a single one exactly if it holds no point. -/
theorem isIdentifier_iff_of_isIdentifierPath {text : List Char}
    (named : isIdentifierPath text = true) : isIdentifier text = true ↔ '.' ∉ text := by
  constructor
  · intro single
    exact (isToken_of_isIdentifier single).notMem (by decide)
  · intro pointless
    rw [isIdentifierPath, List.splitOn_eq_singleton pointless] at named
    simpa using named

theorem isIdentifierPath_of_fault? {config : Config} (valid : config.fault? = none)
    (name : StyleName) : isIdentifierPath (name.value config.style).toList = true := by
  unfold fault? at valid
  split at valid
  · cases valid
  · split at valid
    · cases valid
    · have listed : name ∈ StyleName.all := by cases name <;> simp [StyleName.all]
      have found := List.find?_eq_none.mp (Option.map_eq_none_iff.mp valid) name listed
      rwa [Bool.not_eq_true', Bool.not_eq_false] at found

/-! ## Names behind stems -/

/-- A path of identifiers that goes on behind a stem with a token, so without further points. -/
structure Continues (stem name : String) : Prop where
  token : ∃ tail : String, name = stem ++ tail ∧ Text.IsToken tail.toList
  path : isIdentifierPath name.toList = true
  single : isIdentifier name.toList = true ↔ '.' ∉ stem.toList

theorem continues_append {stem tail : String} (named : isIdentifierPath stem.toList = true)
    (token : Text.IsToken tail.toList) : Continues stem (stem ++ tail) := by
  have path := isIdentifierPath_append named token
  have pointless : '.' ∉ tail.toList := token.notMem (by decide)
  refine ⟨⟨tail, rfl, token⟩, ?_, ?_⟩
  · rw [String.toList_append]
    exact path
  · rw [String.toList_append, isIdentifier_iff_of_isIdentifierPath path, List.mem_append]
    simp [pointless]

end Config

open Config

theorem Member.Called.continues {member : Member} {stem : String} {addend : Addend}
    (called : member.Called stem addend) (readable : addend.Readable)
    (named : isIdentifierPath stem.toList = true) : Continues stem member.name := by
  rw [called.name]
  exact continues_append named readable.isToken_suffix

/-! ## Names of a class -/

/-- Without declared subroutines members are named in four ways. -/
theorem Style.stems_start (style : Style) (heuristics : Heuristics) {lines : List SourceLine}
    (undeclared : ∀ line ∈ lines, Keyword.ofLine? line.characters ≠ some .subroutine) :
    (style.start heuristics lines).stems =
      ["Padding", "EndPadding", "Subroutine", style.memberStem] := by
  rw [Context.stems, Style.start, memberStem_applyDirectives,
    subroutines_applyDirectives _ undeclared]
  rfl

/-- Under an accepted configuration, and without directives that name the class or declare
subroutines, the class and its members are named by paths of identifiers that hold the points of
their stems and no others.  All of these names are single identifiers if neither the stem of classes
nor that of decoded members holds a point. -/
theorem continues_of_reconstruct {config : Config} (valid : config.fault? = none)
    {fingerprint : String → UInt32} {lines : List SourceLine} {stub : Stub}
    (returns : (reconstruct config.style config.heuristics fingerprint lines).result =
      .ok (some stub))
    (unnamed : ∀ line ∈ lines, Keyword.ofLine? line.characters ≠ some .className)
    (undeclared : ∀ line ∈ lines, Keyword.ofLine? line.characters ≠ some .subroutine) :
    Continues config.style.classStem stub.header.className ∧
      (∀ member ∈ Item.members stub.body,
        ∃ stem ∈ ["Padding", "EndPadding", "Subroutine", config.style.memberStem],
          Continues stem member.name) ∧
      ('.' ∉ config.style.memberStem.toList → ∀ member ∈ Item.members stub.body,
        isIdentifier member.name.toList = true) := by
  have members : ∀ member ∈ Item.members stub.body,
      ∃ stem ∈ ["Padding", "EndPadding", "Subroutine", config.style.memberStem],
        Continues stem member.name := by
    intro member inside
    obtain ⟨stem, listed, addend, readable, called⟩ := calls_of_reconstruct returns member inside
    rw [config.style.stems_start config.heuristics undeclared] at listed
    refine ⟨stem, listed, called.continues readable ?_⟩
    simp only [List.mem_cons, List.not_mem_nil, or_false] at listed
    rcases listed with rfl | rfl | rfl | rfl
    · decide
    · decide
    · decide
    · exact isIdentifierPath_of_fault? valid .memberStem
  refine ⟨?_, members, ?_⟩
  · obtain ⟨line, body, -, named⟩ := exists_className_of_reconstruct returns
      (SourceLine.unnamed_of_ofLine? unnamed)
    rw [named]
    exact continues_append (isIdentifierPath_of_fault? valid .classStem)
      (Numeral.isToken_word32Hex _)
  · intro pointless member inside
    obtain ⟨stem, listed, continues⟩ := members member inside
    refine continues.single.mpr ?_
    simp only [List.mem_cons, List.not_mem_nil, or_false] at listed
    rcases listed with rfl | rfl | rfl | rfl
    · decide
    · decide
    · decide
    · exact pointless

/-- A class behind a point, with the two halves of a number at a symbol, a call and paddings, whose
members all have single identifiers. -/
theorem continues_of_reconstruct_pointed_class :
    let config : Config := { style := { classStem := "Game.Struct", memberStem := "m_" } }
    let lines := SourceLine.ofTexts
      ["void f(int a1)", "#size 64", "  *(_QWORD *)(a1 + v2) = 0x40000000i64;",
        "  sub_2(a1 + 0x10);"]
    config.fault? = none ∧ ∃ stub, (config.reconstruct lines).result = .ok (some stub) ∧
      Continues "Game.Struct" stub.header.className ∧
      isIdentifier stub.header.className.toList = false ∧
      (∀ member ∈ Item.members stub.body, isIdentifier member.name.toList = true) ∧
      (Item.members stub.body).map Member.name =
        ["m_v2_int", "m_v2_plus4_int", "Padding4", "Subroutine10", "EndPadding14"] := by
  intro config lines
  have valid : config.fault? = none := by decide +kernel
  have unnamed : ∀ line ∈ lines, Keyword.ofLine? line.characters ≠ some .className := by
    decide +kernel
  have undeclared : ∀ line ∈ lines, Keyword.ofLine? line.characters ≠ some .subroutine := by
    decide +kernel
  have check : (config.reconstruct lines).result.toOption.join.any (fun stub : Stub =>
      decide ((Item.members stub.body).map Member.name =
        ["m_v2_int", "m_v2_plus4_int", "Padding4", "Subroutine10", "EndPadding14"])) = true := by
    decide +kernel
  obtain ⟨stub, found, meets⟩ := (Option.any_eq_true _ _).mp check
  have returns := eq_ok_of_toOption found
  obtain ⟨named, -, single⟩ := continues_of_reconstruct valid returns unnamed undeclared
  have pointed : isIdentifier stub.header.className.toList = false := by
    refine Bool.eq_false_iff.mpr fun identifier => ?_
    exact absurd (named.single.mp identifier) (by decide)
  exact ⟨valid, stub, returns, named, pointed, single (by decide), of_decide_eq_true meets⟩

/-- An accepted configuration can put points into the names of a class and of its member. -/
theorem not_isIdentifier_behind_point :
    let config : Config := { style := { classStem := "Game.Structs", memberStem := "this.m" } }
    let lines := SourceLine.ofTexts ["void sub_1(a1)", "  *(_DWORD *)(a1 + 4) = 5;"]
    config.fault? = none ∧
      (∀ line ∈ lines, Keyword.ofLine? line.characters ≠ some .className) ∧
      (∀ line ∈ lines, Keyword.ofLine? line.characters ≠ some .subroutine) ∧
      ∃ stub, (config.reconstruct lines).result = .ok (some stub) ∧
        stub.header.className = "Game.Structs6D6C8D77" ∧
        isIdentifier stub.header.className.toList = false ∧
        ∃ member ∈ Item.members stub.body, member.name = "this.m4" ∧
          isIdentifier member.name.toList = false := by
  intro config lines
  have check : (config.reconstruct lines).result.toOption.join.any (fun stub : Stub => decide (
      stub.header.className = "Game.Structs6D6C8D77" ∧
      isIdentifier stub.header.className.toList = false ∧
      ∃ member ∈ Item.members stub.body, member.name = "this.m4" ∧
        isIdentifier member.name.toList = false)) = true := by
    decide +kernel
  obtain ⟨stub, found, meets⟩ := (Option.any_eq_true _ _).mp check
  refine ⟨?_, ?_, ?_, stub, eq_ok_of_toOption found, of_decide_eq_true meets⟩
  · decide +kernel
  · decide +kernel
  · decide +kernel

end LayoutRecovery
