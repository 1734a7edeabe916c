import InputDemand.Proofs.Loop.Forms
import Mathlib.Data.List.SplitBy

/-!
# Arithmetic

What an expression amounts to is said without regard to linear forms: it is cut into numbers, names
and marks, and parentheses, signs, products and sums are evaluated in the order of arithmetic.  An
expression that is read as a linear form amounts to the value of that form and to nothing else, so
the parentheses that were taken off it were partners of each other.
-/

namespace InputDemand

/-! ## Tokens -/

/-- A number, a name, or any other piece of an expression. -/
inductive Token
  | number (amount : Nat)
  | name (name : Text)
  | mark (piece : Text)
deriving DecidableEq, Repr

/-- What a piece of an expression is. -/
def Token.ofPiece (piece : Text) : Token :=
  match Text.digitsValue? piece with
  | some amount => .number amount
  | none =>
      if Text.isIdentifier (Text.dropSigil piece) then .name (Text.dropSigil piece)
      else .mark piece

/-- Whether neighbours belong to one word, in front of which a dollar sign may stand. -/
def joins (left right : Char) : Bool :=
  (isWord left || decide (left = '$')) && isWord right

/-- The tokens of an expression, with words as long as they can be and without blanks. -/
def Text.tokens (text : Text) : List Token :=
  ((text.splitBy joins).filter fun piece => !blank piece).map Token.ofPiece

/-! ## Values -/

/-- What binds the parts of an expression together, the closest first. -/
inductive Rank
  | operand
  | product
  | sum

/-- What tokens amount to when names have some values. -/
inductive Amounts (valueOf : Text → Int) : Rank → List Token → Int → Prop
  | number (amount : Nat) : Amounts valueOf .operand [.number amount] amount
  | name (name : Text) : Amounts valueOf .operand [.name name] (valueOf name)
  | enclosed {tokens : List Token} {value : Int} : Amounts valueOf .sum tokens value →
      Amounts valueOf .operand (.mark ['('] :: (tokens ++ [.mark [')']])) value
  | positive {tokens : List Token} {value : Int} : Amounts valueOf .operand tokens value →
      Amounts valueOf .operand (.mark ['+'] :: tokens) value
  | negative {tokens : List Token} {value : Int} : Amounts valueOf .operand tokens value →
      Amounts valueOf .operand (.mark ['-'] :: tokens) (-value)
  | factor {tokens : List Token} {value : Int} : Amounts valueOf .operand tokens value →
      Amounts valueOf .product tokens value
  | times {left right : List Token} {first second : Int} : Amounts valueOf .product left first →
      Amounts valueOf .operand right second →
      Amounts valueOf .product (left ++ .mark ['*'] :: right) (first * second)
  | term {tokens : List Token} {value : Int} : Amounts valueOf .product tokens value →
      Amounts valueOf .sum tokens value
  | plus {left right : List Token} {first second : Int} : Amounts valueOf .sum left first →
      Amounts valueOf .product right second →
      Amounts valueOf .sum (left ++ .mark ['+'] :: right) (first + second)
  | minus {left right : List Token} {first second : Int} : Amounts valueOf .sum left first →
      Amounts valueOf .product right second →
      Amounts valueOf .sum (left ++ .mark ['-'] :: right) (first - second)

/-- What an expression amounts to when names have some values. -/
def Text.AmountsTo (valueOf : Text → Int) (text : Text) (value : Int) : Prop :=
  Amounts valueOf .sum text.tokens value

/-! ## Cutting into tokens -/

namespace Text

variable {front back gap behind piece text digits sigil name left right : Text} {amount : Nat}
  {first second : Token} {sign : Char}

theorem tokens_append
    (apart : ∀ left ∈ front.getLast?, ∀ right ∈ back.head?, joins left right = false) :
    tokens (front ++ back) = tokens front ++ tokens back := by
  rw [tokens, List.splitBy_append apart, List.filter_append, List.map_append]
  rfl

/-- A text is cut in front of a character that belongs to no word. -/
theorem tokens_append_of_stops (front : Text)
    (stops : back.head?.all (fun letter => !isWord letter) = true) :
    tokens (front ++ back) = tokens front ++ tokens back := by
  refine tokens_append fun left _ right isHead => ?_
  have ahead : back.head? = some right := isHead
  rw [ahead, Option.all_some, Bool.not_eq_true'] at stops
  rw [joins, stops, Bool.and_false]

theorem tokens_gap_append (blankGap : blank gap = true) (back : Text) :
    tokens (gap ++ back) = tokens gap ++ tokens back := by
  refine tokens_append fun left isLast right _ => ?_
  have isBlank := List.all_eq_true.mp blankGap left (List.mem_of_mem_getLast? isLast)
  have noDollar : left ≠ '$' := by
    rintro rfl
    exact absurd isBlank (by decide +kernel)
  rw [joins, Declaration.isWord_of_isBlank left isBlank, decide_eq_false noDollar]
  rfl

theorem tokens_blank (blankGap : blank gap = true) : tokens gap = [] := by
  have noPiece : (gap.splitBy joins).filter (fun piece => !blank piece) = [] := by
    refine List.filter_eq_nil_iff.mpr fun piece member visible => ?_
    rw [Bool.not_eq_true'] at visible
    have within : piece ⊆ gap := by
      rw [← List.flatten_splitBy joins gap]
      exact (List.sublist_flatten_of_mem member).subset
    rw [blank, List.all_eq_true.mpr fun letter inPiece =>
      List.all_eq_true.mp blankGap letter (within inPiece)] at visible
    cases visible
  rw [tokens, noPiece, List.map_nil]

theorem tokens_padded (blankFront : blank front = true) (blankBack : blank back = true)
    (text : Text) : tokens (front ++ (text ++ back)) = tokens text := by
  have stops : (back ++ []).head?.all (fun letter => !isWord letter) = true :=
    Declaration.stops_at Declaration.isWord_of_isBlank blankBack rfl
  rw [List.append_nil] at stops
  rw [tokens_gap_append blankFront, tokens_append_of_stops text stops, tokens_blank blankFront,
    tokens_blank blankBack, List.nil_append, List.append_nil]

theorem tokens_trim (text : Text) : tokens (trim text) = tokens text := by
  obtain ⟨front, back, split, blankFront, blankBack⟩ := exists_trim text
  have padded := tokens_padded blankFront blankBack (trim text)
  rw [← split] at padded
  exact padded.symm

/-- A visible piece whose characters belong together is one token. -/
theorem tokens_piece {first : Char} {more : Text} (visible : isBlank first = false)
    (together : (first :: more).IsChain fun left right => joins left right = true) :
    tokens (first :: more) = [Token.ofPiece (first :: more)] := by
  have kept : (!blank (first :: more)) = true := by
    rw [blank, List.all_cons, visible]
    rfl
  rw [tokens, List.splitBy_of_isChain (List.cons_ne_nil first more) together, List.filter_singleton,
    kept]
  rfl

theorem isChain_joins_of_words (words : ∀ letter ∈ text, isWord letter = true) :
    text.IsChain fun left right => joins left right = true := by
  refine List.Pairwise.isChain (List.pairwise_iff_forall_sublist.mpr ?_)
  intro left right pair
  rw [joins, words left (pair.subset List.mem_cons_self),
    words right (pair.subset (List.mem_cons_of_mem _ List.mem_cons_self))]
  rfl

theorem tokens_digits (number : digitsValue? digits = some amount) :
    tokens digits = [.number amount] := by
  have words : ∀ letter ∈ digits, isWord letter = true := fun letter member =>
    isWord_of_isDigit ((all_isDigit_of_digitsValue? number).2 letter member)
  obtain ⟨first, more, rfl, _, visible, _⟩ := exists_first_digit number
  rw [tokens_piece visible (isChain_joins_of_words words), Token.ofPiece, number]

theorem tokens_name (isSigil : sigil ∈ sigils) (isName : isIdentifier name = true) :
    tokens (sigil ++ name) = [.name name] := by
  have words := List.all_eq_true.mp (all_isWord_of_isIdentifier isName)
  obtain ⟨start, others, isStart, starts, _⟩ := exists_cons_of_isIdentifier isName
  have together : (sigil ++ name).IsChain fun left right => joins left right = true := by
    simp only [sigils, List.mem_cons, List.not_mem_nil, or_false] at isSigil
    rcases isSigil with rfl | rfl
    · exact isChain_joins_of_words words
    · refine List.isChain_cons.mpr ⟨fun right isHead => ?_, isChain_joins_of_words words⟩
      rw [joins, words right (List.mem_of_mem_head? isHead)]
      simp
  have bare : dropSigil (sigil ++ name) = name := by
    simp only [sigils, List.mem_cons, List.not_mem_nil, or_false] at isSigil
    rcases isSigil with rfl | rfl
    · rw [List.nil_append, isStart, dropSigil]
      intro rest same
      rw [(List.cons.inj same).1] at starts
      cases starts
    · rfl
  obtain ⟨first, more, split, noDigit, _, _, visible⟩ := exists_cons_of_identifier isSigil isName
  have noNumber : digitsValue? (first :: more) = none :=
    digitsValue?_eq_none List.mem_cons_self noDigit
  rw [split] at together bare ⊢
  rw [tokens_piece visible together, Token.ofPiece, noNumber, bare]
  simp only [isName, if_true]

theorem tokens_mark {letter : Char} (isMark : letter ∈ ['(', ')', '+', '-', '*']) (rest : Text) :
    tokens (letter :: rest) = .mark [letter] :: tokens rest := by
  have alone : joins letter = (fun _ => false) ∧ isBlank letter = false ∧
      Token.ofPiece [letter] = .mark [letter] := by
    simp only [List.mem_cons, List.not_mem_nil, or_false] at isMark
    rcases isMark with rfl | rfl | rfl | rfl | rfl <;>
      exact ⟨funext fun _ => rfl, by decide +kernel, rfl⟩
  obtain ⟨apart, visible, isMark⟩ := alone
  have cut := @tokens_append [letter] rest fun left isLast right _ => by
    rw [List.getLast?_singleton] at isLast
    rw [← Option.some.inj isLast]
    exact congrFun apart right
  rw [← List.singleton_append, cut, tokens_piece visible (List.isChain_singleton letter), isMark]
  rfl

theorem tokens_signed (isSign : sign = '+' ∨ sign = '-') (blankGap : blank gap = true)
    (blankBehind : blank behind = true) (isFirst : tokens left = [first])
    (isSecond : tokens right = [second]) :
    tokens (left ++ (gap ++ sign :: (behind ++ right))) = [first, .mark [sign], second] := by
  have isMark : sign ∈ ['(', ')', '+', '-', '*'] ∧ isWord sign = false := by
    rcases isSign with rfl | rfl <;> decide +kernel
  rw [tokens_append_of_stops left (stops_gap (fun _ => id) blankGap isMark.2 (behind ++ right)),
    tokens_gap_append blankGap, tokens_mark isMark.1, tokens_gap_append blankBehind,
    tokens_blank blankGap, tokens_blank blankBehind, isFirst, isSecond]
  rfl

end Text

/-! ## Parentheses that close each other -/

section Evaluation

variable {valueOf : Text → Int} {rank : Rank} {token : Token} {tokens front left right : List Token}
  {value other : Int}

theorem Amounts.ne_nil (amounts : Amounts valueOf rank tokens value) : tokens ≠ [] := by
  induction amounts with
  | number | name | enclosed | positive | negative => exact List.cons_ne_nil _ _
  | factor _ inductionHypothesis | term _ inductionHypothesis => exact inductionHypothesis
  | times | plus | minus => exact List.append_ne_nil_of_right_ne_nil _ (List.cons_ne_nil _ _)

theorem Amounts.count_eq (amounts : Amounts valueOf rank tokens value) :
    tokens.count (.mark ['(']) = tokens.count (.mark [')']) := by
  induction amounts with
  | number | name => rfl
  | enclosed _ inductionHypothesis =>
      simp only [List.count_cons, List.count_append, inductionHypothesis]
      rfl
  | positive _ inductionHypothesis | negative _ inductionHypothesis =>
      simp only [List.count_cons, inductionHypothesis]
      rfl
  | factor _ inductionHypothesis | term _ inductionHypothesis => exact inductionHypothesis
  | times _ _ leftHypothesis rightHypothesis | plus _ _ leftHypothesis rightHypothesis
  | minus _ _ leftHypothesis rightHypothesis =>
      simp only [List.count_cons, List.count_append, leftHypothesis, rightHypothesis]
      rfl

/-- The values of numbers and names. -/
inductive Primary (valueOf : Text → Int) : Token → Int → Prop
  | number (amount : Nat) : Primary valueOf (.number amount) amount
  | name (name : Text) : Primary valueOf (.name name) (valueOf name)

/-- The tokens with at most one sign and without parentheses, and what they amount to. -/
inductive Flat (valueOf : Text → Int) : List Token → Int → Prop
  | alone {token : Token} {value : Int} : Primary valueOf token value → Flat valueOf [token] value
  | positive {token : Token} {value : Int} : Primary valueOf token value →
      Flat valueOf [.mark ['+'], token] value
  | negative {token : Token} {value : Int} : Primary valueOf token value →
      Flat valueOf [.mark ['-'], token] (-value)
  | plus {left right : Token} {first second : Int} : Primary valueOf left first →
      Primary valueOf right second → Flat valueOf [left, .mark ['+'], right] (first + second)
  | minus {left right : Token} {first second : Int} : Primary valueOf left first →
      Primary valueOf right second → Flat valueOf [left, .mark ['-'], right] (first - second)

/-- Tokens with at most one sign and with any number of parentheses around them. -/
inductive Simple (valueOf : Text → Int) : List Token → Int → Prop
  | flat {tokens : List Token} {value : Int} : Flat valueOf tokens value →
      Simple valueOf tokens value
  | enclosed {tokens : List Token} {value : Int} : Simple valueOf tokens value →
      Simple valueOf (.mark ['('] :: (tokens ++ [.mark [')']])) value

theorem Primary.ne_mark (operand : Primary valueOf token value) (piece : Text) :
    .mark piece ≠ token := by
  cases operand <;> exact Token.noConfusion

theorem Primary.unique (operand : Primary valueOf token value)
    (again : Primary valueOf token other) : other = value := by
  cases operand <;> (cases again; rfl)

theorem Flat.eq_of_mark_mem (flat : Flat valueOf tokens value) {piece : Text}
    (member : .mark piece ∈ tokens) : piece = ['+'] ∨ piece = ['-'] := by
  cases flat with
  | alone operand => exact absurd (List.mem_singleton.mp member) (operand.ne_mark piece)
  | positive operand | negative operand =>
      simp only [List.mem_cons, Token.mark.injEq, operand.ne_mark piece, List.not_mem_nil,
        or_false] at member
      simp only [member, true_or, or_true]
  | plus first second | minus first second =>
      simp only [List.mem_cons, Token.mark.injEq, first.ne_mark piece, second.ne_mark piece,
        List.not_mem_nil, or_false, false_or] at member
      simp only [member, true_or, or_true]

/-- In no beginning of such tokens more parentheses are closed than opened. -/
theorem Simple.count_le_of_prefix (simple : Simple valueOf tokens value)
    (isPrefix : front <+: tokens) :
    front.count (.mark [')']) ≤ front.count (.mark ['(']) := by
  induction simple generalizing front with
  | flat flat =>
      have none : .mark [')'] ∉ front := fun member =>
        absurd (flat.eq_of_mark_mem (isPrefix.subset member)) (by decide)
      rw [List.count_eq_zero.mpr none]
      exact Nat.zero_le _
  | enclosed _ inductionHypothesis =>
      rcases List.prefix_cons_iff.mp isPrefix with rfl | ⟨more, rfl, opened⟩
      · exact Nat.le_refl 0
      rcases List.prefix_concat_iff.mp opened with rfl | within
      · have inside := inductionHypothesis (List.prefix_refl _)
        simp only [List.count_cons, List.count_append]
        exact Nat.add_le_add_right inside 1
      · have inside := inductionHypothesis within
        simp only [List.count_cons]
        exact Nat.le_succ_of_le inside

/-! ## One value -/

theorem Simple.primary (simple : Simple valueOf [token] other)
    (unmarked : ∀ piece, token ≠ .mark piece) : Primary valueOf token other := by
  generalize same : [token] = tokens at simple
  cases simple with
  | flat flat =>
      subst same
      cases flat with
      | alone operand => exact operand
  | enclosed => exact absurd (List.cons.inj same).1 (unmarked _)

theorem Simple.inside (simple : Simple valueOf (.mark ['('] :: (tokens ++ [.mark [')']])) other) :
    Simple valueOf tokens other := by
  generalize same : Token.mark ['('] :: (tokens ++ [.mark [')']]) = whole at simple
  cases simple with
  | flat flat =>
      subst same
      exact absurd (flat.eq_of_mark_mem List.mem_cons_self) (by decide)
  | enclosed simple =>
      rw [List.append_cancel_right (List.cons.inj same).2]
      exact simple

/-- Behind a sign in front stands one operand. -/
theorem Simple.exists_of_sign {sign : Text} (isSign : sign ≠ ['('])
    (simple : Simple valueOf (.mark sign :: tokens) other) :
    ∃ token value, tokens = [token] ∧ Primary valueOf token value ∧
      (sign = ['+'] ∧ other = value ∨ sign = ['-'] ∧ other = -value) := by
  generalize same : Token.mark sign :: tokens = whole at simple
  cases simple with
  | flat flat =>
      cases flat with
      | alone operand => exact absurd (List.cons.inj same).1 (operand.ne_mark sign)
      | positive operand =>
          obtain ⟨isPlus, rest⟩ := List.cons.inj same
          exact ⟨_, _, rest, operand, Or.inl ⟨Token.mark.inj isPlus, rfl⟩⟩
      | negative operand =>
          obtain ⟨isMinus, rest⟩ := List.cons.inj same
          exact ⟨_, _, rest, operand, Or.inr ⟨Token.mark.inj isMinus, rfl⟩⟩
      | plus operand _ | minus operand _ =>
          exact absurd (List.cons.inj same).1 (operand.ne_mark sign)
  | enclosed => exact absurd (Token.mark.inj (List.cons.inj same).1) isSign

theorem eq_of_append_cons_eq_three {middle first second third : Token}
    (same : left ++ middle :: right = [first, second, third]) (leftNonempty : left ≠ [])
    (rightNonempty : right ≠ []) : left = [first] ∧ middle = second ∧ right = [third] := by
  obtain ⟨opening, more, rfl⟩ := List.exists_cons_of_ne_nil leftNonempty
  obtain ⟨isFirst, behind⟩ := List.cons.inj same
  cases more with
  | nil =>
      obtain ⟨isSecond, isThird⟩ := List.cons.inj behind
      exact ⟨congrArg (fun token => [token]) isFirst, isSecond, isThird⟩
  | cons next more =>
      obtain ⟨_, onlyOne⟩ := List.cons.inj behind
      have lengths := congrArg List.length onlyOne
      have visible := List.length_pos_of_ne_nil rightNonempty
      simp only [List.append_eq, List.length_append, List.length_cons, List.length_nil] at lengths
      omega

/-- Between two parts that close their parentheses stands the one sign, outside all parentheses. -/
theorem Simple.exists_of_split {piece : Text}
    (simple : Simple valueOf (left ++ .mark piece :: right) other) (leftNonempty : left ≠ [])
    (rightNonempty : right ≠ [])
    (balanced : left.count (.mark ['(']) = left.count (.mark [')'])) :
    ∃ first second start move, left = [first] ∧ right = [second] ∧
      Primary valueOf first start ∧ Primary valueOf second move ∧
      (piece = ['+'] ∧ other = start + move ∨ piece = ['-'] ∧ other = start - move) := by
  generalize same : left ++ .mark piece :: right = tokens at simple
  cases simple with
  | flat flat =>
      have lengths := congrArg List.length same
      have visibleLeft := List.length_pos_of_ne_nil leftNonempty
      have visibleRight := List.length_pos_of_ne_nil rightNonempty
      rw [List.length_append, List.length_cons] at lengths
      cases flat with
      | alone | positive | negative =>
          simp only [List.length_cons, List.length_nil] at lengths
          omega
      | plus first second =>
          obtain ⟨isLeft, isPlus, isRight⟩ :=
            eq_of_append_cons_eq_three same leftNonempty rightNonempty
          exact ⟨_, _, _, _, isLeft, isRight, first, second, Or.inl ⟨Token.mark.inj isPlus, rfl⟩⟩
      | minus first second =>
          obtain ⟨isLeft, isMinus, isRight⟩ :=
            eq_of_append_cons_eq_three same leftNonempty rightNonempty
          exact ⟨_, _, _, _, isLeft, isRight, first, second, Or.inr ⟨Token.mark.inj isMinus, rfl⟩⟩
  | @enclosed inside _ simple =>
      -- The parenthesis in front is closed by the last one only, so it is not closed on the left.
      obtain ⟨opening, more, rfl⟩ := List.exists_cons_of_ne_nil leftNonempty
      obtain ⟨rfl, behind⟩ := List.cons.inj same
      exfalso
      rcases List.prefix_concat_iff.mp ⟨_, behind⟩ with whole | within
      · rw [← whole] at behind
        exact List.cons_ne_nil _ _ (List.append_right_eq_self.mp behind)
      · have few := simple.count_le_of_prefix within
        simp only [List.count_cons] at balanced
        have more : more.count (.mark ['(']) + 1 = more.count (.mark [')']) := balanced
        omega

/-- Tokens with at most one sign amount to one value. -/
theorem Amounts.eq_of_simple (amounts : Amounts valueOf rank tokens value)
    (simple : Simple valueOf tokens other) : value = other := by
  induction amounts generalizing other with
  | number amount =>
      exact ((simple.primary fun _ => Token.noConfusion).unique (.number amount))
  | name name =>
      exact ((simple.primary fun _ => Token.noConfusion).unique (.name name))
  | enclosed _ inductionHypothesis => exact inductionHypothesis simple.inside
  | positive _ inductionHypothesis =>
      obtain ⟨token, value, rfl, operand, ⟨_, rfl⟩ | ⟨isMinus, _⟩⟩ :=
        simple.exists_of_sign (by decide)
      · exact inductionHypothesis (.flat (.alone operand))
      · exact absurd isMinus (by decide)
  | negative _ inductionHypothesis =>
      obtain ⟨token, value, rfl, operand, ⟨isPlus, _⟩ | ⟨_, rfl⟩⟩ :=
        simple.exists_of_sign (by decide)
      · exact absurd isPlus (by decide)
      · rw [inductionHypothesis (.flat (.alone operand))]
  | factor _ inductionHypothesis | term _ inductionHypothesis => exact inductionHypothesis simple
  | times left right _ _ =>
      obtain ⟨_, _, _, _, _, _, _, _, ⟨isPlus, _⟩ | ⟨isMinus, _⟩⟩ :=
        simple.exists_of_split left.ne_nil right.ne_nil left.count_eq
      · exact absurd isPlus (by decide)
      · exact absurd isMinus (by decide)
  | plus left right leftHypothesis rightHypothesis =>
      obtain ⟨_, _, _, _, rfl, rfl, first, second, ⟨_, rfl⟩ | ⟨isMinus, _⟩⟩ :=
        simple.exists_of_split left.ne_nil right.ne_nil left.count_eq
      · rw [leftHypothesis (.flat (.alone first)), rightHypothesis (.flat (.alone second))]
      · exact absurd isMinus (by decide)
  | minus left right leftHypothesis rightHypothesis =>
      obtain ⟨_, _, _, _, rfl, rfl, first, second, ⟨isPlus, _⟩ | ⟨_, rfl⟩⟩ :=
        simple.exists_of_split left.ne_nil right.ne_nil left.count_eq
      · exact absurd isPlus (by decide)
      · rw [leftHypothesis (.flat (.alone first)), rightHypothesis (.flat (.alone second))]

theorem Primary.amounts (operand : Primary valueOf token value) :
    Amounts valueOf .operand [token] value := by
  cases operand with
  | number amount => exact .number amount
  | name name => exact .name name

theorem Simple.amounts (simple : Simple valueOf tokens value) :
    Amounts valueOf .sum tokens value := by
  induction simple with
  | flat flat =>
      cases flat with
      | alone operand => exact .term (.factor operand.amounts)
      | positive operand => exact .term (.factor (.positive operand.amounts))
      | negative operand => exact .term (.factor (.negative operand.amounts))
      | plus first second => exact .plus (.term (.factor first.amounts)) (.factor second.amounts)
      | minus first second => exact .minus (.term (.factor first.amounts)) (.factor second.amounts)
  | enclosed _ inductionHypothesis => exact .term (.factor (.enclosed inductionHypothesis))

end Evaluation

/-! ## Expressions that are read -/

namespace Linear

open Text

theorem Spelled.flat {valueOf : Text → Int} {text : Text} {linear : Linear}
    (spelled : Spelled text linear) : Flat valueOf text.tokens (linear.valueAt valueOf) := by
  cases spelled with
  | literal literal =>
      cases literal with
      | unsigned number =>
          rw [tokens_digits number]
          exact .alone (.number _)
      | plus number =>
          rw [tokens_mark (by decide), tokens_digits number]
          exact .positive (.number _)
      | minus number =>
          rw [tokens_mark (by decide), tokens_digits number]
          exact .negative (.number _)
  | name isSigil isName =>
      rw [tokens_name isSigil isName, valueAt_some, Int.add_zero]
      exact .alone (.name _)
  | plus isSigil isName _ blankGap blankBehind number =>
      rw [← List.append_assoc, tokens_signed (Or.inl rfl) blankGap blankBehind
        (tokens_name isSigil isName) (tokens_digits number), valueAt_some]
      exact .plus (.name _) (.number _)
  | minus isSigil isName _ blankGap blankBehind number =>
      rw [← List.append_assoc, tokens_signed (Or.inr rfl) blankGap blankBehind
        (tokens_name isSigil isName) (tokens_digits number), valueAt_some, ← Int.sub_eq_add_neg]
      exact .minus (.name _) (.number _)
  | sum number _ blankGap blankBehind isSigil isName =>
      rw [tokens_signed (Or.inl rfl) blankGap blankBehind (tokens_digits number)
        (tokens_name isSigil isName), valueAt_some, Int.add_comm]
      exact .plus (.number _) (.name _)

end Linear

theorem Text.Strips.simple {valueOf : Text → Int} {text bare : Text} {linear : Linear}
    (strips : Strips text bare) (spelled : Linear.Spelled bare linear) :
    Simple valueOf text.tokens (linear.valueAt valueOf) := by
  induction strips with
  | bare =>
      rw [← tokens_trim]
      exact .flat spelled.flat
  | enclosed split _ inductionHypothesis =>
      have closing : tokens [')'] = [.mark [')']] := tokens_mark (by decide) []
      rw [← tokens_trim, split, tokens_mark (by decide), tokens_append_of_stops _ rfl, closing]
      exact .enclosed (inductionHypothesis spelled)

/-- Just the expressions that spell a linear form, but for blanks and parentheses around it, are
read, and each as that form.  Such an expression amounts to the value of the form and to nothing
else, whatever the values of names are. -/
theorem Linear.ofText?_spelled_and_amounts (text : Text) (linear : Linear) :
    (ofText? text = some linear ↔ ∃ bare, Text.Strips text bare ∧ Spelled bare linear) ∧
      (ofText? text = some linear → ∀ (valueOf : Text → Int) (value : Int),
        Text.AmountsTo valueOf text value ↔ value = linear.valueAt valueOf) := by
  refine ⟨ofText?_eq_some_iff, fun read valueOf value => ?_⟩
  obtain ⟨bare, strips, spelled⟩ := ofText?_eq_some_iff.mp read
  have simple := @Text.Strips.simple valueOf _ _ _ strips spelled
  constructor
  · intro amounts
    exact amounts.eq_of_simple simple
  · rintro rfl
    exact simple.amounts

theorem Linear.ofText?_spelled_and_amounts_enclosed :
    ofText? "( ($n - 1 ) )".toList = some ⟨some ['n'], -1⟩ ∧
      ∀ (valueOf : Text → Int) (value : Int),
        Text.AmountsTo valueOf "( ($n - 1 ) )".toList value ↔ value = valueOf ['n'] + -1 := by
  have read : ofText? "( ($n - 1 ) )".toList = some ⟨some ['n'], -1⟩ := by decide +kernel
  exact ⟨read, (ofText?_spelled_and_amounts _ _).2 read⟩

/-- Parentheses that do not close each other are taken off as well, but what they leave is not
read. -/
example : Linear.ofText? "(a) + (b)".toList = none := by decide +kernel

end InputDemand
