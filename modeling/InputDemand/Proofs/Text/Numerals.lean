import InputDemand.Proofs.Text.Names
import InputDemand.Text.Integer

/-!
# Numbers in decimal

A number is what its decimal form is read as, and digits are name letters.
-/

namespace InputDemand

namespace Text

theorem isDigit_of_mem_ofNat {number : Nat} {letter : Char} (member : letter ∈ ofNat number) :
    letter.isDigit = true :=
  Nat.isDigit_of_mem_toDigits (by decide) (by decide) member

theorem isNameLetter_of_isDigit {letter : Char} (digit : letter.isDigit = true) :
    isNameLetter letter = true := by
  rw [isNameLetter, Char.isAlphanum, digit, Bool.or_true, Bool.true_or]

theorem digitsValue?_ofNat (number : Nat) : digitsValue? (ofNat number) = some number := by
  have visible : (ofNat number).isEmpty = false :=
    List.isEmpty_eq_false_iff.mpr Nat.toDigits_ne_nil
  have digits : (ofNat number).all Char.isDigit = true :=
    List.all_eq_true.mpr fun letter listed => isDigit_of_mem_ofNat listed
  have value := @Nat.ofDigitChars_toDigits 10 number (by decide) (by decide)
  rw [digitsValue?, visible, digits]
  exact congrArg some value

theorem all_isDigit_of_digitsValue? {digits : Text} {amount : Nat}
    (read : digitsValue? digits = some amount) :
    digits ≠ [] ∧ ∀ letter ∈ digits, letter.isDigit = true := by
  unfold digitsValue? at read
  split at read
  · cases read
  · rename_i plain
    simp only [Bool.or_eq_true, Bool.not_eq_true', not_or, Bool.not_eq_false, List.isEmpty_iff] at plain
    exact ⟨plain.1, List.all_eq_true.mp plain.2⟩

theorem digitsValue?_eq_none {text : Text} {letter : Char} (member : letter ∈ text)
    (noDigit : letter.isDigit = false) : digitsValue? text = none := by
  cases read : digitsValue? text with
  | none => rfl
  | some amount =>
      rw [(all_isDigit_of_digitsValue? read).2 letter member] at noDigit
      cases noDigit

theorem signed?_of_unsigned {first : Char} (noMinus : first ≠ '-') (noPlus : first ≠ '+')
    (more : Text) : signed? (first :: more) =
      (digitsValue? (first :: more)).bind fun value => InputDemand.signed? (value : Int) := by
  unfold signed?
  split
  · rename_i same
    exact absurd (List.cons.inj same).1 noMinus
  · rename_i same
    exact absurd (List.cons.inj same).1 noPlus
  · rfl

theorem signed?_of_digitsValue? {digits : Text} {amount : Nat}
    (read : digitsValue? digits = some amount) :
    signed? digits = InputDemand.signed? (amount : Int) := by
  obtain ⟨visible, isDigit⟩ := all_isDigit_of_digitsValue? read
  obtain ⟨first, more, rfl⟩ := List.exists_cons_of_ne_nil visible
  have firstDigit := isDigit first List.mem_cons_self
  have noSign : first ≠ '-' ∧ first ≠ '+' := by
    constructor <;> (rintro rfl; cases firstDigit)
  rw [signed?_of_unsigned noSign.1 noSign.2, read]
  rfl

theorem signed?_ofInt {value : Int} (fits : fitsSigned value = true) :
    signed? (ofInt value) = some value := by
  cases value with
  | ofNat number =>
      rw [ofInt, signed?_of_digitsValue? (digitsValue?_ofNat number), InputDemand.signed?]
      exact if_pos fits
  | negSucc number =>
      rw [ofInt, signed?, digitsValue?_ofNat, Option.bind_some, InputDemand.signed?]
      exact if_pos fits

end Text

end InputDemand
