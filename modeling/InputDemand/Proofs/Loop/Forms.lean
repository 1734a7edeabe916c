import InputDemand.Proofs.Loop.Sizes

/-!
# The forms of expressions

Blanks and parentheses are taken off an expression as long as there are any.  What is left is read
just if it is a number of 64 bits, a name, a name plus or minus digits, or digits plus a name.
-/

namespace InputDemand

namespace Text

variable {text bare inside : Text} {value : Int}

/-! ## Numbers of 64 bits -/

/-- Integers of 64 bits in decimal, with a sign in front or without one. -/
inductive Literal : Text → Int → Prop
  | unsigned {digits : Text} {amount : Nat} : digitsValue? digits = some amount →
      (amount : Int) ≤ maxSigned → Literal digits amount
  | plus {digits : Text} {amount : Nat} : digitsValue? digits = some amount →
      (amount : Int) ≤ maxSigned → Literal ('+' :: digits) amount
  | minus {digits : Text} {amount : Nat} : digitsValue? digits = some amount →
      minSigned ≤ -(amount : Int) → Literal ('-' :: digits) (-amount)

theorem signed?_neg_natCast (amount : Nat) : InputDemand.signed? (-(amount : Int)) =
    if minSigned ≤ -(amount : Int) then some (-(amount : Int)) else none := by
  have high : -(amount : Int) ≤ maxSigned := by
    rw [maxSigned]
    omega
  rw [InputDemand.signed?, fitsSigned, decide_eq_true high, Bool.and_true]
  simp only [decide_eq_true_eq]

theorem le_and_eq_of_signed?_natCast {amount : Nat}
    (fits : InputDemand.signed? (amount : Int) = some value) :
    (amount : Int) ≤ maxSigned ∧ value = amount := by
  rw [Declaration.signed?_natCast] at fits
  split at fits
  · rename_i small
    exact ⟨small, (Option.some.inj fits).symm⟩
  · cases fits

/-- The texts that are read as numbers, and the numbers as which they are read. -/
theorem signed?_eq_some_iff : signed? text = some value ↔ Literal text value := by
  constructor
  · intro read
    unfold signed? at read
    split at read
    · obtain ⟨amount, digits, fits⟩ := Option.bind_eq_some_iff.mp read
      rw [signed?_neg_natCast] at fits
      split at fits
      · rename_i small
        cases fits
        exact .minus digits small
      · cases fits
    · obtain ⟨amount, digits, fits⟩ := Option.bind_eq_some_iff.mp read
      obtain ⟨small, rfl⟩ := le_and_eq_of_signed?_natCast fits
      exact .plus digits small
    · obtain ⟨amount, digits, fits⟩ := Option.bind_eq_some_iff.mp read
      obtain ⟨small, rfl⟩ := le_and_eq_of_signed?_natCast fits
      exact .unsigned digits small
  · intro literal
    cases literal with
    | unsigned digits small =>
        rw [signed?_of_digitsValue? digits, Declaration.signed?_natCast, if_pos small]
    | plus digits small =>
        rw [signed?, digits, Option.bind_some, Declaration.signed?_natCast, if_pos small]
    | minus digits small =>
        rw [signed?, digits, Option.bind_some, signed?_neg_natCast, if_pos small]

/-! ## Blanks and parentheses -/

/-- What is left of a text when the blanks around it and one parenthesis at each end are taken off,
again and again, as long as there are both parentheses. -/
inductive Strips : Text → Text → Prop
  | bare {text : Text} : (∀ inside, trim text ≠ '(' :: (inside ++ [')'])) → Strips text (trim text)
  | enclosed {text inside bare : Text} : trim text = '(' :: (inside ++ [')']) →
      Strips inside bare → Strips text bare

theorem exists_strips (text : Text) : ∃ bare, Strips text bare := by
  -- Each pair of parentheses that is taken off leaves a shorter text.
  induction length : text.length using Nat.strong_induction_on generalizing text with
  | _ size inductionHypothesis =>
      by_cases enclosed : ∃ inside, trim text = '(' :: (inside ++ [')'])
      · obtain ⟨inside, split⟩ := enclosed
        have shorter : inside.length < size := by
          have within := length_trim_le text
          rw [split, List.length_cons, List.length_append] at within
          omega
        obtain ⟨bare, strips⟩ := inductionHypothesis _ shorter inside rfl
        exact ⟨bare, .enclosed split strips⟩
      · exact ⟨trim text, .bare (not_exists.mp enclosed)⟩

theorem Strips.trim_eq (strips : Strips text bare) : trim bare = bare := by
  induction strips with
  | bare => exact trim_trim _
  | enclosed _ _ inductionHypothesis => exact inductionHypothesis

theorem exists_inside (opened : text.head? = some '(') (closed : text.getLast? = some ')') :
    ∃ inside, text = '(' :: (inside ++ [')']) := by
  obtain ⟨more, rfl⟩ := List.head?_eq_some_iff.mp opened
  obtain ⟨front, split⟩ := List.getLast?_eq_some_iff.mp closed
  cases front with
  | nil => cases split
  | cons first inside =>
      obtain ⟨rfl, rfl⟩ := List.cons.inj split
      exact ⟨inside, rfl⟩

theorem stripParentheses_of_not_enclosed (unenclosed : ∀ inside, text ≠ '(' :: (inside ++ [')']))
    (rounds : Nat) : stripParentheses rounds text = text := by
  cases rounds with
  | zero => rfl
  | succ rounds =>
      rw [stripParentheses_step, if_neg]
      intro both
      simp only [Bool.and_eq_true, decide_eq_true_eq] at both
      obtain ⟨inside, split⟩ := exists_inside both.1 both.2
      exact unenclosed inside split

/-- An expression is read as what is left of it. -/
theorem Strips.ofText?_eq (strips : Strips text bare) :
    Linear.ofText? text = Linear.ofBare? bare := by
  induction strips with
  | bare unenclosed => rw [Linear.ofText?_eq, stripParentheses_of_not_enclosed unenclosed]
  | @enclosed text inside bare split _ inductionHypothesis =>
      obtain ⟨front, back, padded, blankFront, blankBack⟩ := exists_trim text
      rw [padded, Linear.ofText?_padded blankFront blankBack, split, Linear.ofText?_enclosed,
        inductionHypothesis]

end Text

namespace Linear

open Text

/-- The linear forms and how they are spelled.  A word that is a value is no name in front of a
sign or by itself, but it may be added to digits. -/
inductive Spelled : Text → Linear → Prop
  | literal {text : Text} {value : Int} : Literal text value → Spelled text ⟨none, value⟩
  | name {sigil name : Text} : sigil ∈ sigils → isIdentifier name = true → name ∉ reserved →
      Spelled (sigil ++ name) ⟨some name, 0⟩
  | plus {sigil name gap behind digits : Text} {amount : Nat} : sigil ∈ sigils →
      isIdentifier name = true → name ∉ reserved → blank gap = true → blank behind = true →
      digitsValue? digits = some amount → (amount : Int) ≤ maxSigned →
      Spelled (sigil ++ (name ++ (gap ++ '+' :: (behind ++ digits)))) ⟨some name, amount⟩
  | minus {sigil name gap behind digits : Text} {amount : Nat} : sigil ∈ sigils →
      isIdentifier name = true → name ∉ reserved → blank gap = true → blank behind = true →
      digitsValue? digits = some amount → (amount : Int) ≤ maxSigned →
      Spelled (sigil ++ (name ++ (gap ++ '-' :: (behind ++ digits)))) ⟨some name, -amount⟩
  | sum {digits gap behind sigil name : Text} {amount : Nat} : digitsValue? digits = some amount →
      (amount : Int) ≤ maxSigned → blank gap = true → blank behind = true → sigil ∈ sigils →
      isIdentifier name = true →
      Spelled (digits ++ (gap ++ '+' :: (behind ++ (sigil ++ name)))) ⟨some name, amount⟩

variable {text name rest digits gap behind sigil : Text} {amount : Nat} {linear : Linear}

/-! ## What is spelled is read -/

theorem ofNumberFirst?_sum (number : digitsValue? digits = some amount)
    (blankGap : blank gap = true) (blankBehind : blank behind = true) (isSigil : sigil ∈ sigils)
    (isName : isIdentifier name = true) :
    ofNumberFirst? (digits ++ (gap ++ '+' :: (behind ++ (sigil ++ name)))) =
      (signed? amount).map fun constant => ⟨some name, constant⟩ := by
  have decimal : ∀ letter ∈ digits, isDecimal letter = true := fun letter member =>
    isDecimal_of_isDigit ((all_isDigit_of_digitsValue? number).2 letter member)
  have stops := stops_gap (fun _ => isWord_of_isDecimal) blankGap
    (by decide +kernel : isWord '+' = false) (behind ++ (sigil ++ name))
  obtain ⟨taken, dropped⟩ := span_append decimal stops
  obtain ⟨first, more, split, _, _, _, visible⟩ := exists_cons_of_identifier isSigil isName
  have sum : (gap ++ '+' :: (behind ++ (sigil ++ name))).dropWhile isBlank =
      '+' :: (behind ++ (sigil ++ name)) := dropWhile_gap blankGap _ (by decide +kernel)
  have named : readName? ((behind ++ (sigil ++ name)).dropWhile isBlank) = some (name, []) := by
    have whole := @readName?_identifier name [] sigil isSigil isName rfl
    rw [split, dropWhile_gap blankBehind more visible, ← split]
    rwa [List.append_nil] at whole
  rw [ofNumberFirst?, dropped, sum, taken, signed?_of_digitsValue? number]
  simp only [Option.bind_eq_bind, named, Option.bind_some]
  cases signed? (amount : Int) <;> rfl

/-- What begins with digits and holds a sign is read number first. -/
theorem ofBare?_of_digits (number : digitsValue? digits = some amount) (plus : '+' ∈ rest) :
    ofBare? (digits ++ rest) = ofNumberFirst? (digits ++ rest) := by
  have noNumber : Text.signed? (digits ++ rest) = none := by
    obtain ⟨first, more, split, digit, _⟩ := exists_first_digit number
    have inWhole : '+' ∈ digits ++ rest := List.mem_append_right digits plus
    rw [split, List.cons_append] at inWhole ⊢
    rw [signed?_of_unsigned, digitsValue?_eq_none inWhole (by decide)]
    · rfl
    · rintro rfl
      cases digit
    · rintro rfl
      cases digit
  rw [ofBare?, noNumber, ofNameFirst?, readName?_digits number]
  rfl

/-- Whatever is spelled as a linear form is read as that form. -/
theorem Spelled.ofBare?_eq (spelled : Spelled text linear) : ofBare? text = some linear := by
  cases spelled with
  | literal literal =>
      rw [ofBare?, signed?_eq_some_iff.mpr literal]
  | @name sigil name isSigil isName unreserved =>
      have named := (ofBare?_of_identifier isSigil isName []).trans
        (ofNameFirst?_name isSigil isName unreserved)
      rwa [List.append_nil] at named
  | plus isSigil isName unreserved blankGap blankBehind number small =>
      rw [ofBare?_of_identifier isSigil isName,
        ofNameFirst?_moved isSigil isName unreserved blankGap (Or.inl rfl) blankBehind number,
        Declaration.signed?_natCast, if_pos small]
      rfl
  | minus isSigil isName unreserved blankGap blankBehind number small =>
      rw [ofBare?_of_identifier isSigil isName,
        ofNameFirst?_moved isSigil isName unreserved blankGap (Or.inr rfl) blankBehind number,
        Declaration.signed?_natCast, if_pos small]
      rfl
  | sum number small blankGap blankBehind isSigil isName =>
      rw [ofBare?_of_digits number (by simp),
        ofNumberFirst?_sum number blankGap blankBehind isSigil isName, Declaration.signed?_natCast,
        if_pos small]
      rfl

/-! ## What is read is spelled -/

theorem not_mem_reserved_of_ofNameFirst? (named : readName? text = some (name, rest))
    (read : ofNameFirst? text = some linear) : name ∉ reserved := by
  intro isReserved
  have contained : reserved.contains name = true := List.contains_iff_mem.mpr isReserved
  simp only [ofNameFirst?, named, Option.bind_eq_bind, Option.bind_some, contained, if_true] at read
  split at read
  · cases read
  · split at read
    · obtain ⟨constant, _, kept⟩ := Option.bind_eq_some_iff.mp read
      cases kept
    · cases read

theorem Spelled.of_ofNameFirst? (trimmed : trim text = text)
    (read : ofNameFirst? text = some linear) : Spelled text linear := by
  obtain ⟨name, rest, constant, named, rfl, ends⟩ := exists_of_ofNameFirst? read
  have unreserved := not_mem_reserved_of_ofNameFirst? named read
  obtain ⟨sigil, isSigil, rfl, isName⟩ := exists_of_readName? named
  obtain ⟨gap, blankGap, split⟩ := exists_blank_dropWhile rest
  rcases ends with ⟨nothing, rfl⟩ | number
  · rw [nothing, List.append_nil] at split
    subst split
    -- Nothing blank stands behind the name, since no blanks are left around the text.
    have whole : sigil ++ name = sigil ++ (name ++ rest) := by
      rw [← trimmed, ← List.append_assoc, ← List.nil_append (sigil ++ name ++ rest),
        trim_padded rfl blankGap, (bare_identifier isSigil isName).trim_eq]
    rw [← whole]
    exact .name isSigil isName unreserved
  · obtain ⟨sign, behind, digits, amount, spelling, isSign, blankBehind, digitsRead, _⟩ :=
      number.exists_parts
    rw [split, spelling] at read ⊢
    rw [ofNameFirst?_moved isSigil isName unreserved blankGap isSign blankBehind digitsRead] at read
    obtain ⟨fitting, fits, same⟩ := Option.map_eq_some_iff.mp read
    obtain ⟨small, rfl⟩ := le_and_eq_of_signed?_natCast fits
    rw [← same]
    rcases isSign with rfl | rfl
    · exact .plus isSigil isName unreserved blankGap blankBehind digitsRead small
    · exact .minus isSigil isName unreserved blankGap blankBehind digitsRead small

theorem Spelled.of_ofNumberFirst? (read : ofNumberFirst? text = some linear) :
    Spelled text linear := by
  obtain ⟨rest, name, amount, sum, named, number, rfl⟩ := exists_of_ofNumberFirst? read
  obtain ⟨gap, blankGap, splitGap⟩ := exists_blank_dropWhile (text.dropWhile isDecimal)
  obtain ⟨behind, blankBehind, splitBehind⟩ := exists_blank_dropWhile rest
  obtain ⟨sigil, isSigil, splitName, isName⟩ := exists_of_readName? named
  rw [splitName, List.append_nil] at splitBehind
  rw [sum, splitBehind] at splitGap
  have split := List.takeWhile_append_dropWhile (p := isDecimal) (l := text)
  rw [splitGap] at split
  rw [← split] at read ⊢
  rw [ofNumberFirst?_sum number blankGap blankBehind isSigil isName] at read
  obtain ⟨constant, fits, _⟩ := Option.map_eq_some_iff.mp read
  exact .sum number (le_and_eq_of_signed?_natCast fits).1 blankGap blankBehind isSigil isName

theorem Spelled.of_ofBare? (trimmed : trim text = text) (read : ofBare? text = some linear) :
    Spelled text linear := by
  rcases ofBare?_cases read with ⟨value, number, rfl⟩ | named | numbered
  · exact .literal (signed?_eq_some_iff.mp number)
  · exact .of_ofNameFirst? trimmed named
  · exact .of_ofNumberFirst? numbered

/-- An expression is read as a linear form just if what is left of it spells that form. -/
theorem ofText?_eq_some_iff :
    ofText? text = some linear ↔ ∃ bare, Strips text bare ∧ Spelled bare linear := by
  constructor
  · intro read
    obtain ⟨bare, strips⟩ := exists_strips text
    rw [strips.ofText?_eq] at read
    exact ⟨bare, strips, .of_ofBare? strips.trim_eq read⟩
  · rintro ⟨bare, strips, spelled⟩
    rw [strips.ofText?_eq, spelled.ofBare?_eq]

end Linear

end InputDemand
