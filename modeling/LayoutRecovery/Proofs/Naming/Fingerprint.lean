import LayoutRecovery.Proofs.Literal.Row
import LayoutRecovery.Proofs.Transcript.Outcome

/-!
# Fingerprints of texts

Taking in a byte loses nothing of the hash, since the multiplier is odd, nor of the byte.  So two
texts that differ in the low byte of one character have different fingerprints, whatever stands
around it.  The eight digits of a fingerprint tell it, and with it go the names of classes that are
made from signatures.
-/

namespace LayoutRecovery

namespace Fingerprint

/-! ## Hashes -/

/-- The inverse of the multiplier modulo `2 ^ 32`. -/
def inverse : UInt32 := 0xBD90D90D

theorem multiplier_mul_inverse : multiplier * inverse = 1 := by decide

/-- The hash before a byte can be told from the hash after it. -/
theorem absorb_injective (byte : UInt8) : Function.Injective fun hash => absorb hash byte := by
  intro hash other same
  have products : hash * multiplier = other * multiplier := (UInt32.xor_left_inj _).mp same
  calc
    hash = hash * multiplier * inverse := by
      rw [UInt32.mul_assoc, multiplier_mul_inverse, UInt32.mul_one]
    _ = other * multiplier * inverse := by rw [products]
    _ = other := by rw [UInt32.mul_assoc, multiplier_mul_inverse, UInt32.mul_one]

/-- The byte that is taken in can be told from the hash after it. -/
theorem absorb_byte_injective (hash : UInt32) : Function.Injective (absorb hash) := by
  intro byte other same
  exact UInt8.toUInt32_inj.mp ((UInt32.xor_right_inj _).mp same)

theorem foldl_absorb_injective (bytes : List UInt8) :
    Function.Injective fun hash => bytes.foldl absorb hash := by
  induction bytes with
  | nil => exact fun _ _ same => same
  | cons byte rest ih => exact fun _ _ same => absorb_injective byte (ih same)

/-- Rows of bytes that differ in one place only have different hashes. -/
theorem ofBytes_ne {byte other : UInt8} (differs : byte ≠ other) (front back : List UInt8) :
    ofBytes (front ++ byte :: back) ≠ ofBytes (front ++ other :: back) := by
  intro same
  rw [ofBytes, ofBytes, List.foldl_append, List.foldl_append, List.foldl_cons,
    List.foldl_cons] at same
  exact differs (absorb_byte_injective _ (foldl_absorb_injective back same))

theorem ofText_ne {left right : Char} (differs : left.toNat % 256 ≠ right.toNat % 256)
    (front back : List Char) :
    ofText (String.ofList (front ++ left :: back)) ≠
      ofText (String.ofList (front ++ right :: back)) := by
  have bytes : left.toNat.toUInt8 ≠ right.toNat.toUInt8 := by
    intro same
    have values := congrArg UInt8.toNat same
    exact differs (by simpa using values)
  simp only [ofText, String.toList_ofList, List.map_append, List.map_cons]
  exact ofBytes_ne bytes _ _

end Fingerprint

/-! ## Names of classes -/

/-- An input without a directive that names the class. -/
def SourceLine.Unnamed (lines : List SourceLine) : Prop :=
  ∀ line ∈ lines, ∀ name, Directive.parse line ≠ .ok (some (.className name))

theorem SourceLine.unnamed_of_ofLine? {lines : List SourceLine}
    (foreign : ∀ line ∈ lines, Keyword.ofLine? line.characters ≠ some .className) :
    Unnamed lines := fun line inside _ parsed =>
  foreign line inside (Directive.ofLine?_of_parse parsed)

theorem Context.className_applyDirectives {lines : List SourceLine}
    (unnamed : SourceLine.Unnamed lines) (context : Context) :
    (context.applyDirectives lines).context.className = context.className := by
  refine applyDirectives_induction (motive := fun other => other.className = context.className)
    (fun line inside directive parsed _ same => ?_) rfl
  cases directive with
  | className name => exact absurd parsed (unnamed line inside name)
  | _ => exact same

theorem text_of_fromSignature {lines body : List SourceLine} {line : SourceLine}
    {signature : String} (signed : Stub.fromSignature lines = line :: body)
    (first : FirstSignature (lines.map SourceLine.text) signature) : line.text = signature := by
  obtain ⟨front, back, texts, unsigned, signs⟩ := first
  obtain ⟨before, others, rfl, rfl, rest⟩ := List.map_eq_append_iff.mp texts
  obtain ⟨found, behind, rfl, rfl, -⟩ := List.map_eq_cons_iff.mp rest
  have split := Stub.fromSignature_of_split
    (fun _ member => unsigned _ (List.mem_map_of_mem member)) signs behind
  exact congrArg SourceLine.text (List.cons.inj (signed.symm.trans split)).1

variable {style : Style} {heuristics : Heuristics} {lines : List SourceLine} {stub : Stub}

theorem exists_className_of_reconstruct {fingerprint : String → UInt32}
    (returns : (reconstruct style heuristics fingerprint lines).result = .ok (some stub))
    (unnamed : SourceLine.Unnamed lines) :
    ∃ line body, Stub.fromSignature lines = line :: body ∧
      stub.header.className = style.classStem ++ Numeral.word32Hex (fingerprint line.text) := by
  obtain ⟨-, line, body, signed, rfl⟩ := result_reconstruct_eq_some_iff.mp returns
  have named : (style.start heuristics lines).className = none :=
    Context.className_applyDirectives unnamed _
  refine ⟨line, body, signed, ?_⟩
  change (style.start heuristics lines).className.getD _ = _
  rw [named, Option.getD_none]

theorem className_of_reconstruct {fingerprint : String → UInt32}
    (returns : (reconstruct style heuristics fingerprint lines).result = .ok (some stub))
    (unnamed : SourceLine.Unnamed lines) {signature : String}
    (first : FirstSignature (lines.map SourceLine.text) signature) :
    stub.header.className = style.classStem ++ Numeral.word32Hex (fingerprint signature) := by
  obtain ⟨line, body, signed, named⟩ := exists_className_of_reconstruct returns unnamed
  rw [named, text_of_fromSignature signed first]

/--
A change of one character in its low byte changes the fingerprint, whatever text stands before and
behind it.  So inputs whose signatures differ in such a character have classes of different names,
if no directive names them and the names start alike.
-/
theorem className_ne_of_signatures {left right : Char}
    (differs : left.toNat % 256 ≠ right.toNat % 256) (front back : List Char) :
    Fingerprint.ofText (String.ofList (front ++ left :: back)) ≠
        Fingerprint.ofText (String.ofList (front ++ right :: back)) ∧
      ∀ (style other : Style) (heuristics settings : Heuristics) (lines others : List SourceLine),
        style.classStem = other.classStem →
        SourceLine.Unnamed lines → SourceLine.Unnamed others →
        FirstSignature (lines.map SourceLine.text) (String.ofList (front ++ left :: back)) →
        FirstSignature (others.map SourceLine.text) (String.ofList (front ++ right :: back)) →
        ∀ stub another,
          (reconstruct style heuristics Fingerprint.ofText lines).result = .ok (some stub) →
          (reconstruct other settings Fingerprint.ofText others).result = .ok (some another) →
            stub.header.className ≠ another.header.className := by
  have hashes := Fingerprint.ofText_ne differs front back
  refine ⟨hashes, ?_⟩
  intro style other heuristics settings lines others stem unnamed unnamed_other first first_other
    stub another returns returns_other same
  rw [className_of_reconstruct returns unnamed first,
    className_of_reconstruct returns_other unnamed_other first_other, stem] at same
  exact hashes (Numeral.word32Hex_injective ((String.append_right_inj _).mp same))

/-- Two signatures that differ in the name of the subroutine. -/
theorem className_ne_of_signatures_digit :
    let lines := SourceLine.ofTexts ["// dump", "void sub_1(int a1)"]
    let others := SourceLine.ofTexts ["void sub_2(int a1)", "#size 4"]
    SourceLine.Unnamed lines ∧ SourceLine.Unnamed others ∧ ∃ stub another,
      (reconstruct {} {} Fingerprint.ofText lines).result = .ok (some stub) ∧
        (reconstruct {} {} Fingerprint.ofText others).result = .ok (some another) ∧
          stub.header.className ≠ another.header.className := by
  intro lines others
  have unnamed : SourceLine.Unnamed lines := SourceLine.unnamed_of_ofLine? (by decide)
  have unnamed_other : SourceLine.Unnamed others := SourceLine.unnamed_of_ofLine? (by decide)
  have unsigned : ∀ text ∈ ["// dump"], ¬ SourceLine.Signs text.toList := by
    intro text inside
    rw [List.mem_singleton.mp inside, ← LineKind.isSignature_iff]
    decide
  have first : FirstSignature (lines.map SourceLine.text)
      (String.ofList ("void sub_".toList ++ '1' :: "(int a1)".toList)) :=
    ⟨["// dump"], [], by decide, unsigned, LineKind.isSignature_iff.mp (by decide)⟩
  have first_other : FirstSignature (others.map SourceLine.text)
      (String.ofList ("void sub_".toList ++ '2' :: "(int a1)".toList)) :=
    ⟨[], ["#size 4"], by decide, nofun, LineKind.isSignature_iff.mp (by decide)⟩
  have returned : (reconstruct {} {} Fingerprint.ofText lines).result.toOption.join.isSome =
      true := by decide +kernel
  have returned_other : (reconstruct {} {} Fingerprint.ofText others).result.toOption.join.isSome =
      true := by decide +kernel
  obtain ⟨stub, found⟩ := Option.isSome_iff_exists.mp returned
  obtain ⟨another, found_other⟩ := Option.isSome_iff_exists.mp returned_other
  have returns := eq_ok_of_toOption found
  have returns_other := eq_ok_of_toOption found_other
  have differs : '1'.toNat % 256 ≠ '2'.toNat % 256 := by decide
  obtain ⟨-, differ⟩ := className_ne_of_signatures differs "void sub_".toList "(int a1)".toList
  exact ⟨unnamed, unnamed_other, stub, another, returns, returns_other,
    differ {} {} {} {} lines others rfl unnamed unnamed_other first first_other stub another returns
      returns_other⟩

end LayoutRecovery
