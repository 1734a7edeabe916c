import InputDemand.Proofs.Program.Clauses
import InputDemand.Proofs.Text.Numerals
import Mathlib.Data.List.TakeWhile

/-!
# What expressions mean

An expression of a loop header is a number, a name, or a name with a number added or subtracted,
perhaps with blanks and parentheses around it.  What it means is said by `Denotes`, given the values
of names, without regard to how it is read.  Whatever is read as a linear form denotes the value of
that form and no other.
-/

namespace InputDemand

/-! ## Characters -/

/-- Whether no number lies in a range of both tables. -/
def apart (left right : List (Nat × Nat)) : Bool :=
  left.all fun (low, high) => right.all fun (other, upTo) => high < other || upTo < low

theorem inRanges_eq_false_of_apart {left right : List (Nat × Nat)} (apart : apart left right = true)
    {letter : Char} (inLeft : inRanges letter left = true) : inRanges letter right = false := by
  obtain ⟨⟨low, high⟩, member, within⟩ := List.any_eq_true.mp inLeft
  refine Bool.eq_false_iff.mpr fun inRight => ?_
  obtain ⟨⟨other, upTo⟩, memberRight, withinRight⟩ := List.any_eq_true.mp inRight
  have disjoint := List.all_eq_true.mp (List.all_eq_true.mp apart _ member) _ memberRight
  simp only [Bool.or_eq_true, decide_eq_true_eq, Bool.and_eq_true] at disjoint within withinRight
  omega

/-- A character of a word beyond ASCII stands in one of the tables of words. -/
theorem inRanges_of_isWord {letter : Char} (large : 128 ≤ letter.toNat)
    (word : isWord letter = true) :
    inRanges letter decimalRanges = true ∨ inRanges letter alphabeticRanges = true ∨
      inRanges letter plainMarkRanges = true ∨ inRanges letter connectorRanges = true := by
  have noNameLetter : isNameLetter letter = false :=
    Bool.eq_false_iff.mpr fun named => by
      have := toNat_lt_of_isNameLetter named
      omega
  simp only [isNameLetter, Char.isAlphanum, Bool.or_eq_false_iff] at noNameLetter
  obtain ⟨⟨noAlpha, noDigit⟩, noLine⟩ := noNameLetter
  simp only [isWord, isDecimal, isAlphabetic, noAlpha, noDigit, noLine, Bool.false_or,
    Bool.or_eq_true, Bool.and_eq_true] at word
  rcases word with ⟨⟨_, decimal⟩, _⟩ | ⟨⟨_, alphabetic⟩ | ⟨_, mark | connector⟩, _⟩
  · exact Or.inl decimal
  · exact Or.inr (Or.inl alphabetic)
  · exact Or.inr (Or.inr (Or.inl mark))
  · exact Or.inr (Or.inr (Or.inr connector))

theorem not_isBlank_of_isWord {letter : Char} (word : isWord letter = true) :
    isBlank letter = false := by
  rcases Nat.lt_or_ge letter.toNat 128 with small | large
  · have table : ((List.range 128).all fun code =>
        !isWord (Char.ofNat code) || !isBlank (Char.ofNat code)) = true := by decide +kernel
    have tested := List.all_eq_true.mp table letter.toNat (List.mem_range.mpr small)
    rw [Char.ofNat_toNat, word] at tested
    simpa using tested
  · have notAscii : (letter = ' ' || (decide (9 ≤ letter.toNat) && decide (letter.toNat ≤ 13))) =
        false := by
      refine Bool.eq_false_iff.mpr fun ascii => ?_
      simp only [Bool.or_eq_true, Bool.and_eq_true, decide_eq_true_eq] at ascii
      rcases ascii with rfl | ⟨_, upTo⟩
      · exact absurd large (by decide)
      · omega
    have noBlank : inRanges letter blankRanges = false := by
      rcases inRanges_of_isWord large word with found | found | found | found
      · exact inRanges_eq_false_of_apart (by decide +kernel) found
      · exact inRanges_eq_false_of_apart (by decide +kernel) found
      · exact inRanges_eq_false_of_apart (by decide +kernel) found
      · exact inRanges_eq_false_of_apart (by decide +kernel) found
    rw [isBlank, notAscii, noBlank, Bool.and_false, Bool.or_false]

theorem isDecimal_of_isDigit {letter : Char} (digit : letter.isDigit = true) :
    isDecimal letter = true := by
  rw [isDecimal, digit, Bool.true_or]

theorem isWord_of_isDecimal {letter : Char} (decimal : isDecimal letter = true) :
    isWord letter = true := by
  rw [isWord, decimal, Bool.or_true, Bool.true_or]

theorem isNameStart_of_isDigit {letter : Char} (digit : letter.isDigit = true) :
    isNameStart letter = false := by
  have table : passedByNames (fun letter => !letter.isDigit || !isNameStart letter) = true := by
    decide +kernel
  have named : isNameLetter letter = true := by
    simp [isNameLetter, Char.isAlphanum, digit]
  have tested := test_of_isNameLetter table named
  rw [digit] at tested
  simpa using tested

/-! ## Meaning -/

/-- Numbers with a sign, and with blanks between the two. -/
inductive SignedNumber : Text → Int → Prop
  | plus {gap digits : Text} {amount : Nat} : Text.blank gap = true →
      Text.digitsValue? digits = some amount → SignedNumber ('+' :: (gap ++ digits)) amount
  | minus {gap digits : Text} {amount : Nat} : Text.blank gap = true →
      Text.digitsValue? digits = some amount → SignedNumber ('-' :: (gap ++ digits)) (-amount)

/-- What an expression denotes when names have some values. -/
inductive Denotes (valueOf : Text → Int) : Text → Int → Prop
  | number {digits : Text} {amount : Nat} : Text.digitsValue? digits = some amount →
      Denotes valueOf digits amount
  | signed {text : Text} {value : Int} : SignedNumber text value → Denotes valueOf text value
  | name {sigil name : Text} : sigil ∈ sigils → Text.isIdentifier name = true →
      Denotes valueOf (sigil ++ name) (valueOf name)
  | moved {sigil name gap text : Text} {value : Int} : sigil ∈ sigils →
      Text.isIdentifier name = true → Text.blank gap = true → SignedNumber text value →
      Denotes valueOf (sigil ++ (name ++ (gap ++ text))) (valueOf name + value)
  | sum {digits gap behind sigil name : Text} {amount : Nat} :
      Text.digitsValue? digits = some amount → Text.blank gap = true → Text.blank behind = true →
      sigil ∈ sigils → Text.isIdentifier name = true →
      Denotes valueOf (digits ++ (gap ++ '+' :: (behind ++ (sigil ++ name))))
        (amount + valueOf name)
  | padded {front text back : Text} {value : Int} : Text.blank front = true →
      Text.blank back = true → Denotes valueOf text value →
      Denotes valueOf (front ++ (text ++ back)) value
  | enclosed {text : Text} {value : Int} : Denotes valueOf text value →
      Denotes valueOf ('(' :: (text ++ [')'])) value

/-- The value of a linear form. -/
def Linear.valueAt (linear : Linear) (valueOf : Text → Int) : Int :=
  match linear.name? with
  | none => linear.constant
  | some name => valueOf name + linear.constant

@[simp]
theorem Linear.valueAt_none (constant : Int) (valueOf : Text → Int) :
    (Linear.mk none constant).valueAt valueOf = constant :=
  rfl

@[simp]
theorem Linear.valueAt_some (name : Text) (constant : Int) (valueOf : Text → Int) :
    (Linear.mk (some name) constant).valueAt valueOf = valueOf name + constant :=
  rfl

/-! ## Trimming -/

namespace Text

theorem dropWhile_blank_append {front : Text} (isBlank : blank front = true) (text : Text) :
    (front ++ text).dropWhile InputDemand.isBlank = text.dropWhile InputDemand.isBlank :=
  List.dropWhile_append_of_pos (List.all_eq_true.mp isBlank)

theorem trimRightBy_append_blank (text : Text) {back : Text} (isBlank : blank back = true) :
    trimRightBy InputDemand.isBlank (text ++ back) = trimRightBy InputDemand.isBlank text := by
  have reversed : blank back.reverse = true := by
    rw [blank, List.all_reverse]
    exact isBlank
  rw [trimRightBy, trimRightBy, List.reverse_append, dropWhile_blank_append reversed]

theorem trim_padded {front back : Text} (blankFront : blank front = true)
    (blankBack : blank back = true) (text : Text) : trim (front ++ (text ++ back)) = trim text := by
  rw [trim, trim, trimLeftBy, trimLeftBy, dropWhile_blank_append blankFront, List.dropWhile_append]
  split
  · rename_i empty
    have all : text.dropWhile isBlank = [] := List.isEmpty_iff.mp empty
    have none : back.dropWhile isBlank = [] :=
      List.dropWhile_eq_nil_iff.mpr (List.all_eq_true.mp blankBack)
    rw [all, none]
  · exact trimRightBy_append_blank _ blankBack

theorem exists_trim (text : Text) :
    ∃ front back, text = front ++ (trim text ++ back) ∧ blank front = true ∧ blank back = true := by
  refine ⟨text.takeWhile isBlank,
    ((text.dropWhile isBlank).reverse.takeWhile isBlank).reverse, ?_, ?_, ?_⟩
  · have right := List.takeWhile_append_dropWhile (p := isBlank)
      (l := (text.dropWhile isBlank).reverse)
    have mirrored := congrArg List.reverse right
    rw [List.reverse_append, List.reverse_reverse] at mirrored
    rw [trim, trimRightBy, trimLeftBy, mirrored, List.takeWhile_append_dropWhile]
  · exact List.all_takeWhile
  · rw [blank, List.all_reverse]
    exact List.all_takeWhile

theorem trim_trim (text : Text) : trim (trim text) = trim text := by
  obtain ⟨front, back, split, blankFront, blankBack⟩ := exists_trim text
  have padded := trim_padded blankFront blankBack (trim text)
  rw [← split] at padded
  exact padded.symm

theorem trim_enclosed (text : Text) : trim ('(' :: (text ++ [')'])) = '(' :: (text ++ [')']) := by
  have back : (text ++ [')']).reverse = ')' :: text.reverse := by simp
  rw [trim, trimLeftBy, List.dropWhile_cons_of_neg (by decide), trimRightBy, List.reverse_cons,
    back, List.cons_append, List.dropWhile_cons_of_neg (by decide), ← List.cons_append, ← back,
    ← List.reverse_cons, List.reverse_reverse]

/-- A text whose ends are no blanks and that does not open with a parenthesis. -/
structure Bare (text : Text) : Prop where
  front : ∃ first more, text = first :: more ∧ isBlank first = false ∧ first ≠ '('
  back : ∃ more last, text = more ++ [last] ∧ isBlank last = false

theorem Bare.trim_eq {text : Text} (bare : Bare text) : trim text = text := by
  obtain ⟨first, more, rfl, visible, _⟩ := bare.front
  obtain ⟨others, last, split, visibleLast⟩ := bare.back
  rw [trim, trimLeftBy, List.dropWhile_cons_of_neg (by rw [visible]; exact Bool.false_ne_true),
    split, trimRightBy, List.reverse_append, List.reverse_singleton, List.singleton_append,
    List.dropWhile_cons_of_neg (by rw [visibleLast]; exact Bool.false_ne_true),
    List.reverse_cons, List.reverse_reverse]

theorem Bare.stripParentheses_eq {text : Text} (bare : Bare text) (rounds : Nat) :
    stripParentheses rounds text = text := by
  apply stripParentheses_eq_self
  obtain ⟨first, more, rfl, _, noBracket⟩ := bare.front
  intro same
  exact noBracket (Option.some.inj same)

/-! ## Parentheses -/

theorem length_trim_le (text : Text) : (trim text).length ≤ text.length := by
  obtain ⟨front, back, split, _, _⟩ := exists_trim text
  have lengths := congrArg List.length split
  simp only [List.length_append] at lengths
  omega

theorem stripParentheses_step (rounds : Nat) (text : Text) :
    stripParentheses (rounds + 1) text =
      if text.head? = some '(' && text.getLast? = some ')' then
        stripParentheses rounds (trim (text.drop 1).dropLast)
      else text :=
  rfl

theorem stripParentheses_succ {rounds : Nat} {text : Text} (enough : text.length ≤ rounds) :
    stripParentheses (rounds + 1) text = stripParentheses rounds text := by
  induction rounds generalizing text with
  | zero =>
      rw [List.length_eq_zero_iff.mp (Nat.le_zero.mp enough)]
      rfl
  | succ rounds inductionHypothesis =>
      have shorter := length_trim_le (text.drop 1).dropLast
      rw [List.length_dropLast, List.length_drop] at shorter
      have same := inductionHypothesis (shorter.trans (by omega))
      rw [stripParentheses_step (rounds + 1) text, stripParentheses_step rounds text, same]

/-- As many rounds as there are characters strip all parentheses. -/
theorem stripParentheses_of_le {rounds : Nat} {text : Text} (enough : text.length ≤ rounds) :
    stripParentheses rounds text = stripParentheses text.length text := by
  induction enough with
  | refl => rfl
  | step enough inductionHypothesis => rw [stripParentheses_succ enough, inductionHypothesis]

end Text

namespace Linear

open Text

/-- Reads an expression without blanks and parentheses around it. -/
def ofBare? (text : Text) : Option Linear :=
  match Text.signed? text with
  | some value => some ⟨none, value⟩
  | none => (ofNameFirst? text).orElse fun _ => ofNumberFirst? text

theorem ofText?_eq (text : Text) :
    ofText? text = ofBare? (stripParentheses (trim text).length (trim text)) :=
  rfl

theorem ofText?_of_bare {text : Text} (bare : Bare text) : ofText? text = ofBare? text := by
  rw [ofText?_eq, bare.trim_eq, bare.stripParentheses_eq]

theorem ofText?_padded {front back : Text} (blankFront : blank front = true)
    (blankBack : blank back = true) (text : Text) :
    ofText? (front ++ (text ++ back)) = ofText? text := by
  rw [ofText?_eq, ofText?_eq, trim_padded blankFront blankBack]

theorem ofText?_enclosed (text : Text) : ofText? ('(' :: (text ++ [')'])) = ofText? text := by
  have stripped : ∀ rounds, stripParentheses (rounds + 1) ('(' :: (text ++ [')'])) =
      stripParentheses rounds (trim text) := by
    intro rounds
    have last : ('(' :: (text ++ [')'])).getLast? = some ')' := by
      rw [← List.cons_append, List.getLast?_concat]
    rw [stripParentheses, last]
    simp
  rw [ofText?_eq, ofText?_eq, trim_enclosed, List.length_cons, stripped, stripParentheses_of_le]
  have shorter := length_trim_le text
  rw [List.length_append]
  omega

end Linear

/-! ## Numbers -/

theorem eq_of_signed? {value number : Int} (fits : signed? value = some number) :
    number = value := by
  unfold signed? at fits
  split at fits
  · exact (Option.some.inj fits).symm
  · cases fits

/-- A number that is read behind a sign is a signed number, without blanks between the two. -/
theorem SignedNumber.of_signed? {sign : Char} {more : Text} {value : Int}
    (isSign : sign = '+' ∨ sign = '-') (read : Text.signed? (sign :: more) = some value) :
    SignedNumber (sign :: more) value := by
  rcases isSign with rfl | rfl
  · obtain ⟨amount, digits, fits⟩ := Option.bind_eq_some_iff.mp read
    rw [eq_of_signed? fits]
    exact @plus [] _ _ rfl digits
  · obtain ⟨amount, digits, fits⟩ := Option.bind_eq_some_iff.mp read
    rw [eq_of_signed? fits]
    exact @minus [] _ _ rfl digits

/-- The numbers that are read denote themselves. -/
theorem Denotes.of_signed? {valueOf : Text → Int} {text : Text} {value : Int}
    (read : Text.signed? text = some value) : Denotes valueOf text value := by
  cases text with
  | nil => cases read
  | cons first more =>
      by_cases isSign : first = '+' ∨ first = '-'
      · exact .signed (.of_signed? isSign read)
      · rw [not_or] at isSign
        rw [Text.signed?_of_unsigned isSign.2 isSign.1] at read
        obtain ⟨amount, digits, fits⟩ := Option.bind_eq_some_iff.mp read
        rw [eq_of_signed? fits]
        exact .number digits

/-! ## What is read is meant -/

namespace Text

theorem exists_dropSigil (text : Text) : ∃ sigil ∈ sigils, text = sigil ++ dropSigil text := by
  unfold dropSigil
  split
  · exact ⟨['$'], by decide, rfl⟩
  · exact ⟨[], by decide, rfl⟩

/-- A name that is read stands at the front of the text, perhaps behind a dollar sign. -/
theorem exists_of_readName? {text name rest : Text} (read : readName? text = some (name, rest)) :
    ∃ sigil ∈ sigils, text = sigil ++ (name ++ rest) ∧ isIdentifier name = true := by
  obtain ⟨sigil, isSigil, split⟩ := exists_dropSigil text
  unfold readName? at read
  cases bare : dropSigil text with
  | nil =>
      rw [bare] at read
      cases read
  | cons first more =>
      rw [bare] at read split
      dsimp only at read
      split at read
      · rename_i starts
        cases read
        refine ⟨sigil, isSigil, ?_, ?_⟩
        · rw [List.cons_append, List.takeWhile_append_dropWhile]
          exact split
        · rw [isIdentifier, starts, List.all_takeWhile]
          rfl
      · cases read

theorem exists_blank_dropWhile (text : Text) :
    ∃ gap, blank gap = true ∧ text = gap ++ text.dropWhile isBlank :=
  ⟨text.takeWhile isBlank, List.all_takeWhile, List.takeWhile_append_dropWhile.symm⟩

/-- Decimal digits hold no sign, so as a signed number they have the value of the digits. -/
theorem digitsValue?_of_decimal {digits : Text} {amount : Int}
    (decimal : digits.all isDecimal = true) (read : signed? digits = some amount) :
    ∃ number : Nat, digitsValue? digits = some number ∧ amount = number := by
  have unsigned : (digitsValue? digits).bind (fun value => InputDemand.signed? (value : Int)) =
      some amount := by
    unfold signed? at read
    split at read
    · cases decimal
    · cases decimal
    · exact read
  obtain ⟨number, digitsRead, fits⟩ := Option.bind_eq_some_iff.mp unsigned
  exact ⟨number, digitsRead, eq_of_signed? fits⟩

end Text

namespace Linear

open Text

variable {valueOf : Text → Int} {text : Text} {linear : Linear}

/-- What is read name first is a name, with nothing behind it or a signed number. -/
theorem exists_of_ofNameFirst? (read : ofNameFirst? text = some linear) :
    ∃ name rest constant, readName? text = some (name, rest) ∧ linear = ⟨some name, constant⟩ ∧
      (rest.dropWhile isBlank = [] ∧ constant = 0 ∨
        SignedNumber (rest.dropWhile isBlank) constant) := by
  cases named : readName? text with
  | none =>
      rw [ofNameFirst?, named] at read
      cases read
  | some pair =>
      obtain ⟨name, rest⟩ := pair
      simp only [ofNameFirst?, named, Option.bind_eq_bind, Option.bind_some] at read
      refine ⟨name, rest, ?_⟩
      -- `finish` is the last step of the reading, which refuses reserved words.
      have finish : ∀ {constant : Int},
          (if reserved.contains name then none else some (⟨some name, constant⟩ : Linear)) =
            some linear → linear = ⟨some name, constant⟩ := by
        intro constant kept
        split at kept
        · cases kept
        · exact (Option.some.inj kept).symm
      cases behind : rest.dropWhile isBlank with
      | nil =>
          simp only [behind] at read
          exact ⟨0, rfl, finish read, Or.inl ⟨rfl, rfl⟩⟩
      | cons sign more =>
          simp only [behind] at read
          split at read
          · rename_i plain
            simp only [Bool.and_eq_true, Bool.or_eq_true, decide_eq_true_eq] at plain
            obtain ⟨constant, signs, kept⟩ := Option.bind_eq_some_iff.mp read
            obtain ⟨amount, digits, rfl⟩ := Option.map_eq_some_iff.mp signs
            obtain ⟨number, digitsRead, rfl⟩ := digitsValue?_of_decimal
              (Bool.and_eq_true_iff.mp plain.2).2 digits
            obtain ⟨gap, blankGap, split⟩ := exists_blank_dropWhile more
            refine ⟨_, rfl, finish kept, Or.inr ?_⟩
            rw [split]
            rcases plain.1 with rfl | rfl
            · exact .plus blankGap digitsRead
            · exact .minus blankGap digitsRead
          · cases read

theorem denotes_of_ofNameFirst? (read : ofNameFirst? text = some linear) :
    Denotes valueOf text (linear.valueAt valueOf) := by
  obtain ⟨name, rest, constant, named, rfl, ends⟩ := exists_of_ofNameFirst? read
  obtain ⟨sigil, isSigil, rfl, isName⟩ := exists_of_readName? named
  obtain ⟨gap, blankGap, split⟩ := exists_blank_dropWhile rest
  rcases ends with ⟨nothing, rfl⟩ | number
  · rw [nothing, List.append_nil] at split
    subst split
    have padded := @Denotes.padded valueOf [] _ _ _ rfl blankGap (.name isSigil isName)
    rw [List.nil_append, List.append_assoc] at padded
    rw [valueAt_some, Int.add_zero]
    exact padded
  · rw [split]
    exact .moved isSigil isName blankGap number

/-- What is read number first is a number, a plus sign and a name. -/
theorem exists_of_ofNumberFirst? (read : ofNumberFirst? text = some linear) :
    ∃ rest name, ∃ number : Nat, (text.dropWhile isDecimal).dropWhile isBlank = '+' :: rest ∧
      readName? (rest.dropWhile isBlank) = some (name, []) ∧
      digitsValue? (text.takeWhile isDecimal) = some number ∧ linear = ⟨some name, number⟩ := by
  unfold ofNumberFirst? at read
  dsimp only at read
  split at read
  · rename_i rest sum
    obtain ⟨⟨name, more⟩, named, read⟩ := Option.bind_eq_some_iff.mp read
    split at read
    · rename_i same
      cases same
      obtain ⟨constant, digits, same⟩ := Option.bind_eq_some_iff.mp read
      obtain ⟨number, digitsRead, rfl⟩ := digitsValue?_of_decimal List.all_takeWhile digits
      exact ⟨rest, name, number, sum, named, digitsRead, (Option.some.inj same).symm⟩
    · cases read
  · cases read

theorem denotes_of_ofNumberFirst? (read : ofNumberFirst? text = some linear) :
    Denotes valueOf text (linear.valueAt valueOf) := by
  obtain ⟨rest, name, number, sum, named, digits, rfl⟩ := exists_of_ofNumberFirst? read
  obtain ⟨gap, blankGap, splitGap⟩ := exists_blank_dropWhile (text.dropWhile isDecimal)
  obtain ⟨behind, blankBehind, splitBehind⟩ := exists_blank_dropWhile rest
  obtain ⟨sigil, isSigil, splitName, isName⟩ := exists_of_readName? named
  rw [splitName, List.append_nil] at splitBehind
  rw [sum, splitBehind] at splitGap
  have split := List.takeWhile_append_dropWhile (p := isDecimal) (l := text)
  rw [← split, splitGap, valueAt_some, Int.add_comm]
  exact .sum digits blankGap blankBehind isSigil isName

theorem exists_of_orElse {first second : Option Linear}
    (found : (first.orElse fun _ => second) = some linear) :
    first = some linear ∨ second = some linear := by
  cases first with
  | none => exact Or.inr found
  | some other => exact Or.inl found

theorem denotes_of_stripParentheses {rounds : Nat} {value : Int}
    (denotes : Denotes valueOf (stripParentheses rounds text) value) :
    Denotes valueOf text value := by
  induction rounds generalizing text with
  | zero => exact denotes
  | succ rounds inductionHypothesis =>
      rw [stripParentheses_step] at denotes
      split at denotes
      · rename_i enclosed
        simp only [Bool.and_eq_true, decide_eq_true_eq] at enclosed
        obtain ⟨more, rfl⟩ := List.head?_eq_some_iff.mp enclosed.1
        have nonempty : more ≠ [] := by
          rintro rfl
          cases enclosed.2
        have last : more.getLast nonempty = ')' := by
          have found := enclosed.2
          rw [List.getLast?_cons_of_ne_nil nonempty, List.getLast?_eq_some_getLast nonempty] at found
          exact Option.some.inj found
        obtain ⟨front, back, split, blankFront, blankBack⟩ := exists_trim more.dropLast
        have inside := Denotes.padded blankFront blankBack (inductionHypothesis denotes)
        rw [List.drop_one, List.tail_cons, ← split] at inside
        rw [← List.dropLast_append_getLast nonempty, last]
        exact .enclosed inside
      · exact denotes

/-- What is read as a linear form denotes the value of that form. -/
theorem denotes_of_ofText? (read : ofText? text = some linear) :
    Denotes valueOf text (linear.valueAt valueOf) := by
  obtain ⟨front, back, split, blankFront, blankBack⟩ := exists_trim text
  rw [ofText?_eq] at read
  have bare : Denotes valueOf (stripParentheses (trim text).length (trim text))
      (linear.valueAt valueOf) := by
    generalize stripParentheses (trim text).length (trim text) = bare at read
    unfold ofBare? at read
    split at read
    · rename_i number
      cases read
      exact Denotes.of_signed? number
    · rcases exists_of_orElse read with named | numbered
      · exact denotes_of_ofNameFirst? named
      · exact denotes_of_ofNumberFirst? numbered
  rw [split]
  exact .padded blankFront blankBack (denotes_of_stripParentheses bare)

/-! ## What is meant is read -/

end Linear

namespace Text

theorem isWord_of_isDigit {letter : Char} (digit : letter.isDigit = true) : isWord letter = true :=
  isWord_of_isDecimal (isDecimal_of_isDigit digit)

theorem exists_last {text : Text} (visible : text ≠ [])
    (plain : ∀ letter ∈ text, isWord letter = true) :
    ∃ more last, text = more ++ [last] ∧ isBlank last = false :=
  ⟨text.dropLast, text.getLast visible, (List.dropLast_append_getLast visible).symm,
    not_isBlank_of_isWord (plain _ (List.getLast_mem visible))⟩

theorem exists_last_append {back : Text} (front : Text)
    (ends : ∃ more last, back = more ++ [last] ∧ isBlank last = false) :
    ∃ more last, front ++ back = more ++ [last] ∧ isBlank last = false := by
  obtain ⟨more, last, rfl, visible⟩ := ends
  exact ⟨front ++ more, last, (List.append_assoc _ _ _).symm, visible⟩

theorem exists_last_digits {digits : Text} {amount : Nat}
    (read : digitsValue? digits = some amount) :
    ∃ more last, digits = more ++ [last] ∧ isBlank last = false := by
  obtain ⟨visible, isDigit⟩ := all_isDigit_of_digitsValue? read
  exact exists_last visible fun letter member => isWord_of_isDigit (isDigit letter member)

theorem exists_last_identifier {name : Text} (isName : isIdentifier name = true) :
    ∃ more last, name = more ++ [last] ∧ isBlank last = false := by
  have words := List.all_eq_true.mp (all_isWord_of_isIdentifier isName)
  obtain ⟨first, more, rfl, _⟩ := exists_cons_of_isIdentifier isName
  exact exists_last (List.cons_ne_nil _ _) words

/-- Digits open with one, which is no sign, bracket or blank. -/
theorem exists_first_digit {digits : Text} {amount : Nat}
    (read : digitsValue? digits = some amount) :
    ∃ first more, digits = first :: more ∧ first.isDigit = true ∧ isBlank first = false ∧
      first ≠ '(' := by
  obtain ⟨visible, isDigit⟩ := all_isDigit_of_digitsValue? read
  obtain ⟨first, more, rfl⟩ := List.exists_cons_of_ne_nil visible
  have digit := isDigit first List.mem_cons_self
  refine ⟨first, more, rfl, digit, not_isBlank_of_isWord (isWord_of_isDigit digit), ?_⟩
  rintro rfl
  cases digit

theorem bare_digits {digits : Text} {amount : Nat} (read : digitsValue? digits = some amount) :
    Bare digits := by
  obtain ⟨first, more, split, _, visible, noBracket⟩ := exists_first_digit read
  exact ⟨⟨first, more, split, visible, noBracket⟩, exists_last_digits read⟩

theorem dropWhile_gap {gap : Text} (blankGap : blank gap = true) {first : Char} (more : Text)
    (visible : isBlank first = false) :
    (gap ++ first :: more).dropWhile isBlank = first :: more := by
  rw [dropWhile_blank_append blankGap,
    List.dropWhile_cons_of_neg (by rw [visible]; exact Bool.false_ne_true)]

/-- A run of word characters ends at blanks, and at what is none. -/
theorem stops_gap {keep : Char → Bool} (words : ∀ letter, keep letter = true → isWord letter = true)
    {gap : Text} (blankGap : blank gap = true) {first : Char} (noWord : isWord first = false)
    (more : Text) : (gap ++ first :: more).head?.all (fun letter => !keep letter) = true := by
  have notKept : ∀ letter, isWord letter = false → (!keep letter) = true := by
    intro letter noWord
    rw [Bool.not_eq_true']
    refine Bool.eq_false_iff.mpr fun kept => ?_
    rw [words letter kept] at noWord
    cases noWord
  cases gap with
  | nil => exact notKept first noWord
  | cons letter gap =>
      refine notKept letter (Bool.eq_false_iff.mpr fun word => ?_)
      have blankLetter : isBlank letter = true := (Bool.and_eq_true_iff.mp blankGap).1
      rw [not_isBlank_of_isWord word] at blankLetter
      cases blankLetter

theorem bare_behind {sigil name behind : Text} (isSigil : sigil ∈ sigils)
    (isName : isIdentifier name = true)
    (ends : ∃ more last, name ++ behind = more ++ [last] ∧ isBlank last = false) :
    Bare (sigil ++ (name ++ behind)) := by
  obtain ⟨first, more, split, _, noSign, _, visible⟩ := exists_cons_of_identifier isSigil isName
  refine ⟨⟨first, more ++ behind, ?_, visible, ?_⟩, exists_last_append sigil ends⟩
  · rw [← List.append_assoc, split, List.cons_append]
  · rintro rfl
    exact noSign (by decide)

theorem bare_identifier {sigil name : Text} (isSigil : sigil ∈ sigils)
    (isName : isIdentifier name = true) : Bare (sigil ++ name) := by
  rw [← List.append_nil name]
  exact bare_behind isSigil isName (by rw [List.append_nil]; exact exists_last_identifier isName)

/-- Nothing that opens with a digit or a sign is read name first. -/
theorem readName?_eq_none {first : Char} (noDollar : first ≠ '$')
    (noStart : isNameStart first = false) (more : Text) : readName? (first :: more) = none := by
  have bare : dropSigil (first :: more) = first :: more := by
    unfold dropSigil
    split
    · rename_i same
      exact absurd (List.cons.inj same).1 noDollar
    · rfl
  rw [readName?, bare]
  simp only [noStart, Bool.false_eq_true, if_false]

theorem readName?_digits {digits : Text} {amount : Nat} (read : digitsValue? digits = some amount)
    (rest : Text) : readName? (digits ++ rest) = none := by
  obtain ⟨first, more, rfl, digit, _⟩ := exists_first_digit read
  refine readName?_eq_none ?_ (isNameStart_of_isDigit digit) _
  rintro rfl
  cases digit

end Text

namespace SignedNumber

variable {text : Text} {value : Int}

theorem exists_parts (number : SignedNumber text value) :
    ∃ sign gap digits amount, text = sign :: (gap ++ digits) ∧ (sign = '+' ∨ sign = '-') ∧
      Text.blank gap = true ∧ Text.digitsValue? digits = some amount ∧
      value = if sign = '-' then -(amount : Int) else amount := by
  cases number with
  | plus blankGap read => exact ⟨_, _, _, _, rfl, Or.inl rfl, blankGap, read, rfl⟩
  | minus blankGap read => exact ⟨_, _, _, _, rfl, Or.inr rfl, blankGap, read, rfl⟩

theorem exists_cons (number : SignedNumber text value) :
    ∃ sign more, text = sign :: more ∧ isBlank sign = false ∧ sign ≠ '(' ∧ sign ≠ '$' ∧
      isNameStart sign = false ∧ isWord sign = false := by
  obtain ⟨sign, gap, digits, amount, rfl, isSign, _⟩ := number.exists_parts
  refine ⟨sign, _, rfl, ?_⟩
  rcases isSign with rfl | rfl <;> decide +kernel

theorem bare (number : SignedNumber text value) : Text.Bare text := by
  obtain ⟨sign, more, split, visible, noBracket, _⟩ := number.exists_cons
  refine ⟨⟨sign, more, split, visible, noBracket⟩, ?_⟩
  obtain ⟨sign, gap, digits, amount, rfl, _, _, read, _⟩ := number.exists_parts
  rw [← List.cons_append]
  exact Text.exists_last_append (sign :: gap) (Text.exists_last_digits read)

/-- A signed number has one value. -/
theorem unique {other : Int} (number : SignedNumber text value) (again : SignedNumber text other) :
    other = value := by
  obtain ⟨sign, gap, digits, amount, split, isSign, blankGap, read, rfl⟩ := number.exists_parts
  obtain ⟨sign', gap', digits', amount', split', _, blankGap', read', rfl⟩ := again.exists_parts
  rw [split, List.cons.injEq] at split'
  obtain ⟨rfl, sameRest⟩ := split'
  obtain ⟨first, more, rfl, _, visible, _⟩ := Text.exists_first_digit read
  obtain ⟨first', more', rfl, _, visible', _⟩ := Text.exists_first_digit read'
  have behind := congrArg (List.dropWhile isBlank) sameRest
  rw [Text.dropWhile_gap blankGap more visible, Text.dropWhile_gap blankGap' more' visible'] at behind
  rw [behind, read'] at read
  rw [Option.some.inj read]

end SignedNumber

/-- Whatever a bare text is read as, it is a number by itself or a form with a name. -/
theorem Linear.ofBare?_cases {text : Text} {linear : Linear} (read : ofBare? text = some linear) :
    (∃ value, Text.signed? text = some value ∧ linear = ⟨none, value⟩) ∨
      ofNameFirst? text = some linear ∨ ofNumberFirst? text = some linear := by
  unfold ofBare? at read
  split at read
  · rename_i value number
    exact Or.inl ⟨value, number, (Option.some.inj read).symm⟩
  · exact Or.inr (exists_of_orElse read)

namespace Denotes

open Linear

variable {valueOf : Text → Int} {text : Text} {value : Int} {linear : Linear}

theorem exists_signed?_of_digits {digits : Text} {amount : Nat}
    (number : Text.digitsValue? digits = some amount) (read : ofBare? digits = some linear) :
    ∃ value, Text.signed? digits = some value ∧ linear = ⟨none, value⟩ := by
  have noName : Text.readName? digits = none := by
    have whole := Text.readName?_digits number []
    rwa [List.append_nil] at whole
  rcases ofBare?_cases read with signed | named | numbered
  · exact signed
  · obtain ⟨name, rest, constant, found, _⟩ := exists_of_ofNameFirst? named
    rw [noName] at found
    cases found
  · obtain ⟨rest, name, amount, sum, _⟩ := exists_of_ofNumberFirst? numbered
    have all : digits.dropWhile isDecimal = [] := by
      refine List.dropWhile_eq_nil_iff.mpr fun letter member => ?_
      exact isDecimal_of_isDigit ((Text.all_isDigit_of_digitsValue? number).2 letter member)
    rw [all] at sum
    cases sum

theorem valueAt_number {digits : Text} {amount : Nat}
    (number : Text.digitsValue? digits = some amount) (read : ofBare? digits = some linear) :
    linear.valueAt valueOf = amount := by
  obtain ⟨value, fits, rfl⟩ := exists_signed?_of_digits number read
  rw [Text.signed?_of_digitsValue? number] at fits
  exact eq_of_signed? fits

theorem ofNumberFirst?_eq_none {first : Char} (noDecimal : isDecimal first = false) (more : Text) :
    ofNumberFirst? (first :: more) = none := by
  cases read : ofNumberFirst? (first :: more) with
  | none => rfl
  | some linear =>
      obtain ⟨rest, name, amount, _, _, digits, _⟩ := exists_of_ofNumberFirst? read
      rw [List.takeWhile_cons_of_neg (by rw [noDecimal]; exact Bool.false_ne_true)] at digits
      cases digits

theorem valueAt_signed (number : SignedNumber text value) (read : ofBare? text = some linear) :
    linear.valueAt valueOf = value := by
  obtain ⟨sign, more, rfl, _, _, noDollar, noStart, noWord⟩ := number.exists_cons
  rcases ofBare?_cases read with ⟨other, fits, rfl⟩ | named | numbered
  · obtain ⟨_, _, _, _, split, isSign, _⟩ := number.exists_parts
    rw [← (List.cons.inj split).1] at isSign
    exact number.unique (.of_signed? isSign fits)
  · obtain ⟨name, rest, constant, found, _⟩ := exists_of_ofNameFirst? named
    rw [Text.readName?_eq_none noDollar noStart] at found
    cases found
  · have noDecimal : isDecimal sign = false :=
      Bool.eq_false_iff.mpr fun decimal => by
        rw [isWord_of_isDecimal decimal] at noWord
        cases noWord
    rw [ofNumberFirst?_eq_none noDecimal] at numbered
    cases numbered

theorem valueAt_behind {sigil name behind : Text} (isSigil : sigil ∈ sigils)
    (isName : Text.isIdentifier name = true)
    (stops : behind.head?.all (fun letter => !isWord letter) = true)
    (ends : behind.dropWhile isBlank = [] ∧ value = 0 ∨
      SignedNumber (behind.dropWhile isBlank) value)
    (read : ofBare? (sigil ++ (name ++ behind)) = some linear) :
    linear.valueAt valueOf = valueOf name + value := by
  have found := Text.readName?_identifier isSigil isName stops
  obtain ⟨first, more, split, noDigit, noSign, noDecimal, _⟩ :=
    Text.exists_cons_of_identifier isSigil isName
  have opens : sigil ++ (name ++ behind) = first :: (more ++ behind) := by
    rw [← List.append_assoc, split, List.cons_append]
  rcases ofBare?_cases read with ⟨other, fits, _⟩ | named | numbered
  · rw [opens, Text.signed?_of_unsigned, Text.digitsValue?_eq_none List.mem_cons_self noDigit] at fits
    · cases fits
    · rintro rfl
      exact noSign (by decide)
    · rintro rfl
      exact noSign (by decide)
  · obtain ⟨name', rest, constant, foundAgain, rfl, again⟩ := exists_of_ofNameFirst? named
    cases found.symm.trans foundAgain
    rw [valueAt_some]
    have same : constant = value := by
      rcases ends with ⟨nothing, rfl⟩ | number
      · rcases again with ⟨_, zero⟩ | number
        · exact zero
        · obtain ⟨_, _, split, _⟩ := number.exists_cons
          cases nothing.symm.trans split
      · rcases again with ⟨nothing, _⟩ | numberAgain
        · obtain ⟨_, _, split, _⟩ := number.exists_cons
          cases nothing.symm.trans split
        · exact number.unique numberAgain
    rw [same]
  · rw [opens, ofNumberFirst?_eq_none noDecimal] at numbered
    cases numbered

theorem valueAt_sum {digits gap behind sigil name : Text} {amount : Nat}
    (number : Text.digitsValue? digits = some amount) (blankGap : Text.blank gap = true)
    (blankBehind : Text.blank behind = true) (isSigil : sigil ∈ sigils)
    (isName : Text.isIdentifier name = true)
    (read : ofBare? (digits ++ (gap ++ '+' :: (behind ++ (sigil ++ name)))) = some linear) :
    linear.valueAt valueOf = amount + valueOf name := by
  obtain ⟨first, more, split, digit, _⟩ := Text.exists_first_digit number
  rcases ofBare?_cases read with ⟨other, fits, _⟩ | named | numbered
  · have plus : '+' ∈ digits ++ (gap ++ '+' :: (behind ++ (sigil ++ name))) := by simp
    rw [split, List.cons_append, Text.signed?_of_unsigned, ← List.cons_append, ← split,
      Text.digitsValue?_eq_none plus (by decide)] at fits
    · cases fits
    · rintro rfl
      cases digit
    · rintro rfl
      cases digit
  · obtain ⟨_, _, _, found, _⟩ := exists_of_ofNameFirst? named
    rw [Text.readName?_digits number] at found
    cases found
  · obtain ⟨rest, name', amount', sum, found, digitsAgain, rfl⟩ := exists_of_ofNumberFirst? numbered
    have stops := Text.stops_gap (fun _ => isWord_of_isDecimal) blankGap
      (by decide +kernel : isWord '+' = false) (behind ++ (sigil ++ name))
    have decimal : ∀ letter ∈ digits, isDecimal letter = true := fun letter member =>
      isDecimal_of_isDigit ((Text.all_isDigit_of_digitsValue? number).2 letter member)
    obtain ⟨taken, dropped⟩ := Text.span_append decimal stops
    obtain ⟨start, others, splitName, _, _, _, visible⟩ :=
      Text.exists_cons_of_identifier isSigil isName
    rw [dropped, Text.dropWhile_gap blankGap _ (by decide +kernel)] at sum
    cases sum
    have named := @Text.readName?_identifier name [] sigil isSigil isName rfl
    rw [List.append_nil] at named
    rw [splitName, Text.dropWhile_gap blankBehind _ visible, ← splitName, named] at found
    rw [taken, number] at digitsAgain
    cases found
    cases digitsAgain
    rw [valueAt_some, Int.add_comm]

theorem bare_moved {sigil name gap : Text} (isSigil : sigil ∈ sigils)
    (isName : Text.isIdentifier name = true) (number : SignedNumber text value) :
    Text.Bare (sigil ++ (name ++ (gap ++ text))) :=
  Text.bare_behind isSigil isName
    (Text.exists_last_append name (Text.exists_last_append gap number.bare.back))

theorem bare_sum {digits gap behind sigil name : Text} {amount : Nat}
    (number : Text.digitsValue? digits = some amount) (isName : Text.isIdentifier name = true) :
    Text.Bare (digits ++ (gap ++ '+' :: (behind ++ (sigil ++ name)))) := by
  obtain ⟨first, more, split, _, visible, noBracket⟩ := Text.exists_first_digit number
  have ends := Text.exists_last_append ('+' :: behind)
    (Text.exists_last_append sigil (Text.exists_last_identifier isName))
  exact ⟨⟨first, _, by rw [split]; rfl, visible, noBracket⟩,
    Text.exists_last_append digits (Text.exists_last_append gap ends)⟩

/-- What is read of an expression has the value that the expression denotes. -/
theorem valueAt_eq (denotes : Denotes valueOf text value) (read : ofText? text = some linear) :
    linear.valueAt valueOf = value := by
  -- Blanks and parentheses are taken off on both sides; what is bare is read in one of three ways.
  induction denotes with
  | number digits =>
      rw [ofText?_of_bare (Text.bare_digits digits)] at read
      exact valueAt_number digits read
  | signed number =>
      rw [ofText?_of_bare number.bare] at read
      exact valueAt_signed number read
  | @name sigil name isSigil isName =>
      rw [ofText?_of_bare (Text.bare_identifier isSigil isName), ← List.append_nil name] at read
      rw [← Int.add_zero (valueOf name)]
      exact valueAt_behind isSigil isName rfl (Or.inl ⟨rfl, rfl⟩) read
  | moved isSigil isName blankGap number =>
      rw [ofText?_of_bare (bare_moved isSigil isName number)] at read
      obtain ⟨sign, more, rfl, visible, _, _, _, noWord⟩ := number.exists_cons
      have behind := Text.dropWhile_gap blankGap more visible
      exact valueAt_behind isSigil isName (Text.stops_gap (fun _ => id) blankGap noWord more)
        (Or.inr (by rwa [behind])) read
  | sum number blankGap blankBehind isSigil isName =>
      rw [ofText?_of_bare (bare_sum number isName)] at read
      exact valueAt_sum number blankGap blankBehind isSigil isName read
  | padded blankFront blankBack _ inductionHypothesis =>
      rw [ofText?_padded blankFront blankBack] at read
      exact inductionHypothesis read
  | enclosed _ inductionHypothesis =>
      rw [ofText?_enclosed] at read
      exact inductionHypothesis read

/-- An expression denotes the same without the blanks around it, and is not blank. -/
theorem trim (denotes : Denotes valueOf text value) :
    Denotes valueOf (Text.trim text) value ∧ Text.trim text ≠ [] := by
  have bare : ∀ {text : Text}, Text.Bare text → Denotes valueOf text value →
      Denotes valueOf (Text.trim text) value ∧ Text.trim text ≠ [] := by
    intro text bare denotes
    rw [bare.trim_eq]
    obtain ⟨first, more, split, _⟩ := bare.front
    exact ⟨denotes, split ▸ List.cons_ne_nil first more⟩
  induction denotes with
  | number digits => exact bare (Text.bare_digits digits) (.number digits)
  | signed number => exact bare number.bare (.signed number)
  | name isSigil isName => exact bare (Text.bare_identifier isSigil isName) (.name isSigil isName)
  | moved isSigil isName blankGap number =>
      exact bare (bare_moved isSigil isName number) (.moved isSigil isName blankGap number)
  | sum number blankGap blankBehind isSigil isName =>
      exact bare (bare_sum number isName) (.sum number blankGap blankBehind isSigil isName)
  | padded blankFront blankBack _ inductionHypothesis =>
      rw [Text.trim_padded blankFront blankBack]
      exact inductionHypothesis bare
  | enclosed inside _ =>
      rw [Text.trim_enclosed]
      exact ⟨.enclosed inside, List.cons_ne_nil _ _⟩

end Denotes

/-- A text that is read as a linear form denotes the value of the form, and nothing else. -/
theorem Linear.denotes_iff {valueOf : Text → Int} {text : Text} {linear : Linear}
    (read : ofText? text = some linear) (value : Int) :
    Denotes valueOf text value ↔ value = linear.valueAt valueOf := by
  constructor
  · intro denotes
    exact (denotes.valueAt_eq read).symm
  · rintro rfl
    exact denotes_of_ofText? read

end InputDemand
