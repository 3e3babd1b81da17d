import LayoutRecovery.Proofs.Addend.Printed

/-!
# The two shapes of an addend

A scaled addend is printed as `((TYPE *)v1 + N)` and a plain one as `(v1 + N)` behind a cast.  No
scaled addend can start before an opening parenthesis that another one follows, and no plain one
inside the name of a type, so that each shape is found where it is printed.
-/

namespace LayoutRecovery

/-- The type names of known width: every marker, by itself or behind `unsigned`. -/
def CastWidth.names : List (List Char × CastWidth) :=
  markers.flatMap fun (marker, width) =>
    [(marker.toList, width), ("unsigned ".toList ++ marker.toList, width)]

namespace Addend

/-- A cast to a pointer. -/
def castText (name : List Char) : List Char :=
  '(' :: (name ++ [' ', '*', ')'])

/-- A tracked pointer with an addend in parentheses. -/
def plainText (pointer : List Char) (negative : Bool) (token : List Char) : List Char :=
  '(' :: (sumText pointer negative token ++ [')'])

/-- A tracked pointer behind a cast, with an addend, in parentheses. -/
def scaledText (name pointer : List Char) (negative : Bool) (token : List Char) : List Char :=
  '(' :: (castText name ++ (sumText pointer negative token ++ [')']))

/-- Whether a text is the name of a type: letters, digits, underscores and blanks. -/
def isTypeName : List Char → Bool
  | [] => false
  | first :: rest =>
      Text.isIdentifierStart first
        && rest.all fun character => Text.isIdentifierCharacter character || character == ' '

theorem isTypeName_of_mem {name : List Char} {width : CastWidth}
    (named : (name, width) ∈ CastWidth.names) : isTypeName name = true := by
  have all : ∀ entry ∈ CastWidth.names, isTypeName entry.1 = true := by decide
  exact all _ named

/-! ## Scaled addends -/

theorem token?_cons (expected : Char) {rest : List Char}
    (settled : Text.trimStart rest = rest) : token? expected (expected :: rest) = some rest := by
  have starts : Text.after? [expected] (expected :: rest) = some rest :=
    Text.after?_eq_some_iff.mpr rfl
  rw [token?, starts, Option.map_some, settled]

theorem visible_of_isTypeName {first : Char} {rest : List Char}
    (typed : isTypeName (first :: rest) = true) : Text.isBlank first = false := by
  simp only [isTypeName, Bool.and_eq_true, Text.isIdentifierStart, Bool.or_eq_true] at typed
  refine Text.isBlank_of_isIdentifierCharacter ?_
  rcases typed.1 with letter | underscore
  · simp [Text.isIdentifierCharacter, Char.isAlphanum, letter]
  · simp [Text.isIdentifierCharacter, underscore]

theorem trimStart_typeName {name : List Char} (typed : isTypeName name = true)
    (rest : List Char) : Text.trimStart (name ++ rest) = name ++ rest := by
  cases name with
  | nil => exact Bool.noConfusion typed
  | cons first name => exact Text.trimStart_cons _ (visible_of_isTypeName typed)

theorem trimStart_pointer {pointer : List Char} (named : isPointerName pointer = true)
    (rest : List Char) : Text.trimStart (pointer ++ rest) = pointer ++ rest := by
  unfold isPointerName at named
  split at named
  · simp only [Bool.and_eq_true, Bool.or_eq_true, beq_iff_eq] at named
    rcases named.1 with rfl | rfl <;> exact Text.trimStart_cons _ (by decide)
  · simp only [Bool.and_eq_true, Bool.or_eq_true, beq_iff_eq] at named
    rcases named.1.1 with rfl | rfl <;> exact Text.trimStart_cons _ (by decide)
  · exact Bool.noConfusion named

theorem trimStart_sumText {pointer : List Char} (named : isPointerName pointer = true)
    (negative : Bool) (token rest : List Char) :
    Text.trimStart (sumText pointer negative token ++ rest) =
      sumText pointer negative token ++ rest := by
  rw [sumText, List.append_assoc]
  exact trimStart_pointer named _

theorem typeName?_append {name : List Char} (named : isTypeName name = true)
    (rest : List Char) :
    typeName? (name ++ ' ' :: '*' :: rest) = some (name ++ [' '], '*' :: rest) := by
  cases name with
  | nil => exact Bool.noConfusion named
  | cons first name =>
      simp only [isTypeName, Bool.and_eq_true, List.all_eq_true] at named
      simp only [List.cons_append, typeName?, named.1, if_true,
        List.takeWhile_append_of_pos named.2, List.dropWhile_append_of_pos named.2]
      rfl

/-- Behind a parenthesis and a cast, an addend is scaled where the parenthesis is closed behind
it. -/
theorem scaledHere?_cast {name : List Char} (typed : isTypeName name = true) {operand : List Char}
    (settled : Text.trimStart operand = operand) :
    scaledHere? ('(' :: (castText name ++ operand)) =
      (plainHere? operand).bind fun occurrence =>
        (Text.after? [')'] (Text.trimStart occurrence.rest)).map fun behind =>
          (CastWidth.detect (name ++ [' ']), { occurrence with rest := behind }) := by
  have shape : '(' :: (castText name ++ operand) =
      '(' :: '(' :: (name ++ ' ' :: '*' :: ')' :: operand) := by
    simp [castText]
  have opened := token?_cons '('
    (Text.trimStart_cons (name ++ ' ' :: '*' :: ')' :: operand)
      (show Text.isBlank '(' = false by decide))
  have inner := token?_cons '('
    (trimStart_typeName typed (' ' :: '*' :: ')' :: operand))
  have star := token?_cons '*'
    (Text.trimStart_cons operand (show Text.isBlank ')' = false by decide))
  have behind_cast := token?_cons ')' settled
  rw [shape, scaledHere?]
  simp only [opened, inner, typeName?_append typed, star, behind_cast, Option.bind_eq_bind,
    Option.bind_some]
  refine Option.bind_congr fun occurrence _ => ?_
  cases Text.after? [')'] (Text.trimStart occurrence.rest) <;> rfl

theorem scaledHere?_castText {name pointer : List Char} (typed : isTypeName name = true)
    (named : isPointerName pointer = true) (negative : Bool) {token : List Char}
    (filled : token ≠ [])
    (identifier : ∀ character ∈ token, Text.isIdentifierCharacter character = true)
    {rest : List Char} (stops : Stops rest) :
    scaledHere? ('(' :: (castText name ++ (sumText pointer negative token ++ rest))) =
      (Text.after? [')'] (Text.trimStart rest)).map fun behind =>
        (CastWidth.detect (name ++ [' ']), { negative, token, rest := behind }) := by
  rw [scaledHere?_cast typed (trimStart_sumText named negative token rest),
    plainHere?_append named negative filled identifier stops]
  rfl

theorem scaledHere?_castText_parenthesis {name : List Char} (typed : isTypeName name = true)
    (rest : List Char) : scaledHere? ('(' :: (castText name ++ '(' :: rest)) = none := by
  have unread : plainHere? ('(' :: rest) = none := by
    cases rest <;> simp [plainHere?, pointer?]
  rw [scaledHere?_cast typed (Text.trimStart_cons rest (by decide)), unread, Option.bind_none]

theorem scaledHere?_scaledText {name pointer : List Char} (typed : isTypeName name = true)
    (named : isPointerName pointer = true) (negative : Bool) {token : List Char}
    (filled : token ≠ [])
    (identifier : ∀ character ∈ token, Text.isIdentifierCharacter character = true)
    (rest : List Char) :
    scaledHere? (scaledText name pointer negative token ++ rest) =
      some (CastWidth.detect (name ++ [' ']), { negative, token, rest }) := by
  have shape : scaledText name pointer negative token ++ rest =
      '(' :: (castText name ++ (sumText pointer negative token ++ ')' :: rest)) := by
    simp [scaledText]
  have closed : Text.after? [')'] (Text.trimStart (')' :: rest)) = some rest := by
    rw [Text.trimStart_cons rest (by decide)]
    exact Text.after?_eq_some_iff.mpr rfl
  rw [shape, scaledHere?_castText typed named negative filled identifier
    (stops_cons (by decide) rest), closed]
  rfl

theorem after?_parenthesis (row : List Char) (filled : row ≠ []) (absent : '(' ∉ row)
    (rest : List Char) : Text.after? ['('] (row ++ rest) = none := by
  cases row with
  | nil => exact absurd rfl filled
  | cons first row =>
      cases found : Text.after? ['('] (first :: row ++ rest) with
      | none => rfl
      | some behind =>
          have same : first = '(' := (List.cons.inj (Text.after?_eq_some_iff.mp found)).1
          exact absurd (by simp [same]) absent

theorem scaledHere?_of_ne {first : Char} (rest : List Char) (other : first ≠ '(') :
    scaledHere? (first :: rest) = none := by
  have starts : Text.after? ['('] (first :: rest) = none :=
    after?_parenthesis [first] (by simp) (by simp [other.symm]) rest
  simp [scaledHere?, token?, starts]

theorem scaled?_append {front : List Char} (absent : '(' ∉ front) (rest : List Char) :
    scaled? (front ++ rest) = scaled? rest := by
  induction front with
  | nil => rfl
  | cons first front ih =>
      have other : first ≠ '(' := fun same => absent (by simp [same])
      have later : '(' ∉ front := fun found => absent (by simp [found])
      rw [List.cons_append, scaled?, scaledHere?_of_ne _ other, Option.none_or, ih later]

theorem scaled?_of_single {row : List Char} (filled : row ≠ []) (absent : '(' ∉ row)
    (rest : List Char) (settled : Text.trimStart (row ++ rest) = row ++ rest) :
    scaled? ('(' :: (row ++ rest)) = scaled? rest := by
  have opened := token?_cons '(' settled
  have second : token? '(' (row ++ rest) = none := by
    rw [token?, after?_parenthesis row filled absent, Option.map_none]
  have here : scaledHere? ('(' :: (row ++ rest)) = none := by
    simp [scaledHere?, opened, second]
  rw [scaled?, here, Option.none_or, scaled?_append absent]

/-! ## Plain addends -/

/-- Whether no tracked pointer can start inside a text, whatever follows it. -/
def clearsPointers : List Char → Bool
  | [] => true
  | [last] => last != 'a' && last != 'v'
  | letter :: digit :: rest =>
      !((letter == 'a' || letter == 'v') && Text.isDecimalDigit digit)
        && clearsPointers (digit :: rest)

theorem plainHere?_of_clears {first : Char} {front : List Char}
    (clear : clearsPointers (first :: front) = true) (rest : List Char) :
    plainHere? (first :: (front ++ rest)) = none := by
  have unread : pointer? (first :: (front ++ rest)) = none := by
    cases front with
    | nil =>
        simp only [clearsPointers, Bool.and_eq_true, bne_iff_ne] at clear
        cases rest with
        | nil => rfl
        | cons digit rest => simp [pointer?, clear.1, clear.2]
    | cons digit front =>
        simp only [clearsPointers, Bool.and_eq_true, Bool.not_eq_true', Bool.and_eq_false_iff,
          Bool.or_eq_false_iff, beq_eq_false_iff_ne] at clear
        rcases clear.1 with letters | digits
        · simp [pointer?, letters.1, letters.2]
        · simp [pointer?, digits]
  rw [plainHere?, unread, Option.bind_none]

theorem clearsPointers_tail {first : Char} {rest : List Char}
    (clear : clearsPointers (first :: rest) = true) : clearsPointers rest = true := by
  cases rest with
  | nil => rfl
  | cons second rest =>
      simp only [clearsPointers, Bool.and_eq_true] at clear
      exact clear.2

/-- Plain addends are looked for behind a text in which no tracked pointer starts. -/
theorem plainFrom?_append {front : List Char} {last : Char}
    (clear : clearsPointers (front ++ [last]) = true) (insideWord : Bool) (rest : List Char) :
    plainFrom? insideWord (front ++ last :: rest) =
      plainFrom? (Text.isWordCharacter last) rest := by
  induction front generalizing insideWord with
  | nil =>
      have here : plainHere? (last :: rest) = none := plainHere?_of_clears clear rest
      rw [List.nil_append, plainFrom?, here, ite_self, Option.none_or]
  | cons first front ih =>
      rw [List.cons_append] at clear
      have here := plainHere?_of_clears clear rest
      rw [List.append_assoc, List.singleton_append] at here
      rw [List.cons_append, plainFrom?, here, ite_self, Option.none_or,
        ih (clearsPointers_tail clear)]

theorem plainFrom?_of_plainHere? {text : List Char} {occurrence : Occurrence}
    (found : plainHere? text = some occurrence) : plainFrom? false text = some occurrence := by
  cases text with
  | nil => cases found
  | cons first rest => simp [plainFrom?, found]

/-! ## Both shapes behind a cast -/

section Printed

variable {name pointer token : List Char} {width : CastWidth} {magnitude : Nat}

/-- Whether a character can stand in a printed sum of a pointer and a number. -/
def isSumCharacter (character : Char) : Bool :=
  IntLiteral.isBodyCharacter character.toLower || character == 'v' || character == ' '
    || character == '-'

theorem sumCharacter_of_mem (tracked : pointer ∈ pointers) (negative : Bool)
    (spells : IntLiteral.Spells token magnitude) {character : Char}
    (inside : character ∈ sumText pointer negative token) : isSumCharacter character = true := by
  have names : ∀ name ∈ pointers, name.all isSumCharacter = true := by decide
  have signs : ∀ negative, (signText negative).all isSumCharacter = true := by decide
  simp only [sumText, List.mem_append] at inside
  rcases inside with name | sign | digit
  · exact List.all_eq_true.mp (names _ tracked) _ name
  · exact List.all_eq_true.mp (signs negative) _ sign
  · simp [isSumCharacter, spells.bodyCharacter_of_mem digit]

theorem not_mem_sumText_of_foreign (tracked : pointer ∈ pointers) (negative : Bool)
    (spells : IntLiteral.Spells token magnitude) {character : Char}
    (foreign : isSumCharacter character = false) : character ∉ sumText pointer negative token := by
  intro inside
  have held := sumCharacter_of_mem tracked negative spells inside
  exact Bool.noConfusion (foreign.symm.trans held)

theorem not_mem_of_isTypeName (typed : isTypeName name = true) : '(' ∉ name := by
  intro inside
  cases name with
  | nil => cases inside
  | cons first name =>
      simp only [isTypeName, Bool.and_eq_true, List.all_eq_true] at typed
      rcases List.mem_cons.mp inside with same | later
      · rw [← same] at typed
        exact absurd typed.1 (by decide)
      · exact absurd (typed.2 _ later) (by decide)

theorem scaled?_castText (typed : isTypeName name = true) {front sum : List Char}
    (absent : '(' ∉ front) (flat : '(' ∉ sum)
    (settled : Text.trimStart (sum ++ [')']) = sum ++ [')']) :
    scaled? (front ++ (castText name ++ '(' :: (sum ++ [')']))) = none := by
  have cast_clear : '(' ∉ name ++ [' ', '*', ')'] := by
    simp [not_mem_of_isTypeName typed]
  have sum_clear : '(' ∉ sum ++ [')'] := by simp [flat]
  have behind_cast := scaled?_of_single (by simp) cast_clear ('(' :: (sum ++ [')']))
    (by rw [List.append_assoc, trimStart_typeName typed])
  have behind_sum := scaled?_of_single (by simp) sum_clear [] (by rw [List.append_nil, settled])
  rw [List.append_nil] at behind_sum
  rw [scaled?_append absent, castText, List.cons_append, behind_cast, behind_sum]
  rfl

theorem not_mem_of_isPointerName (named : isPointerName pointer = true) : '(' ∉ pointer := by
  intro inside
  unfold isPointerName at named
  split at named
  · simp only [List.mem_cons, List.not_mem_nil, or_false] at inside
    rcases inside with rfl | rfl <;> simp at named
  · simp only [List.mem_cons, List.not_mem_nil, or_false] at inside
    rcases inside with rfl | rfl | rfl <;> simp at named
  · cases named

theorem not_mem_sumText (flat : '(' ∉ pointer) (negative : Bool)
    (spells : IntLiteral.Spells token magnitude) : '(' ∉ sumText pointer negative token := by
  intro inside
  simp only [sumText, List.mem_append] at inside
  rcases inside with name | sign | digit
  · exact flat name
  · cases negative <;> exact absurd sign (by decide)
  · exact absurd (spells.identifier_of_mem digit) (by decide)

/-- The addend of a printed pointer counts in bytes. -/
theorem find?_plainText (typed : isTypeName name = true) (named : isPointerName pointer = true)
    (negative : Bool) (spells : IntLiteral.Spells token magnitude) {front : List Char}
    (absent : '(' ∉ front) (clear : clearsPointers (front ++ castText name ++ ['(']) = true) :
    find? (front ++ (castText name ++ plainText pointer negative token)) =
      some (literal (Offset.wrap (displacement negative magnitude 1))) := by
  have unscaled :
      scaled? (front ++ (castText name ++ plainText pointer negative token)) = none := by
    have flat := not_mem_sumText (not_mem_of_isPointerName named) negative spells
    exact scaled?_castText typed absent flat (trimStart_sumText named negative token [')'])
  have addend := plainHere?_append named negative spells.ne_nil
    (fun _ inside => spells.identifier_of_mem inside)
    (show Stops [')'] from stops_cons (by decide) [])
  have found := plainFrom?_append clear false (sumText pointer negative token ++ [')'])
  rw [show Text.isWordCharacter '(' = false by decide, plainFrom?_of_plainHere? addend] at found
  rw [find?, unscaled, plain?, ← List.append_assoc, plainText, found]
  exact congrArg some (ofOccurrence_of_spells spells negative [')'] 1)

theorem detect_of_mem (named : (name, width) ∈ CastWidth.names) :
    CastWidth.detect (name ++ [' ']) = width := by
  have all : ∀ entry ∈ CastWidth.names, CastWidth.detect (entry.1 ++ [' ']) = entry.2 := by
    decide
  exact all _ named

theorem ne_unknown_of_mem (named : (name, width) ∈ CastWidth.names) : width ≠ .unknown := by
  have all : ∀ entry ∈ CastWidth.names, entry.2 ≠ .unknown := by decide
  exact all _ named

/-- The addend of a printed pointer behind a cast counts in elements of its width. -/
theorem find?_scaledText (listed : (name, width) ∈ CastWidth.names)
    (named : isPointerName pointer = true) (negative : Bool)
    (spells : IntLiteral.Spells token magnitude) {front : List Char} (absent : '(' ∉ front)
    (rest : List Char) :
    find? (front ++ (scaledText name pointer negative token ++ rest)) =
      some (literal (Offset.wrap (displacement negative magnitude width.bytes))) := by
  have here := scaledHere?_scaledText (isTypeName_of_mem listed) named negative spells.ne_nil
    (fun _ inside => spells.identifier_of_mem inside) rest
  have found : scaled? (front ++ (scaledText name pointer negative token ++ rest)) =
      some (width, { negative, token, rest }) := by
    rw [scaled?_append absent, scaledText, List.cons_append, scaled?, ← List.cons_append,
      ← scaledText, here, detect_of_mem listed]
    rfl
  rw [find?, found]
  simp only [ne_unknown_of_mem listed, if_false]
  exact congrArg some (ofOccurrence_of_spells spells negative rest _)

end Printed

end Addend

end LayoutRecovery
