import InputDemand.Proofs.Loop.Starts

/-!
# Headers of counting loops

A header assigns a start to a counter, compares it with an end and moves it by a step, each in one
of several spellings.  However the clauses are spelled, the header is read as that counter with the
count that its start, comparison, end and step state; and it is read as nothing if one of its
clauses is on another name.
-/

namespace InputDemand

/-! ## Steps -/

/-- The step by an amount that a sign stands for. -/
def Step.of (sign : Char) (amount : Nat) : Step :=
  if sign = '+' then .up amount else .down amount

/-- A step on some names: a doubled sign behind a name or in front of it, a name moved by an amount,
or a name that is assigned a name with an amount added or subtracted. -/
inductive IsStep : List Text → Step → Text → Prop
  | behind {name spelled gap : Text} {sign : Char} : Spells name spelled →
      Text.blank gap = true → sign = '+' ∨ sign = '-' →
      IsStep [name] (.of sign 1) (spelled ++ (gap ++ [sign, sign]))
  | front {name spelled gap : Text} {sign : Char} : Spells name spelled →
      Text.blank gap = true → sign = '+' ∨ sign = '-' →
      IsStep [name] (.of sign 1) (sign :: sign :: (gap ++ spelled))
  | signed {name spelled gap behind digits : Text} {sign : Char} {amount : Nat} :
      Spells name spelled → Text.blank gap = true → sign = '+' ∨ sign = '-' →
      Text.blank behind = true → Text.digitsValue? digits = some amount → amount ≤ maxUnsigned →
      IsStep [name] (.of sign amount) (spelled ++ (gap ++ sign :: '=' :: (behind ++ digits)))
  | assigned {name spelled assign other spelledOther gap behind digits : Text} {sign : Char}
      {amount : Nat} : Spells name spelled → Text.Padded ['='] assign →
      Spells other spelledOther → Text.blank gap = true → sign = '+' ∨ sign = '-' →
      Text.blank behind = true → Text.digitsValue? digits = some amount → amount ≤ maxUnsigned →
      IsStep [name, other] (.of sign amount)
        (spelled ++ (assign ++ (spelledOther ++ (gap ++ sign :: (behind ++ digits)))))

section Steps

variable {name spelled rest gap digits statement counter : Text} {names : List Text} {step : Step}
  {sign : Char} {amount : Nat}

theorem Spells.dropWhile_gap (spells : Spells name spelled) (blankGap : Text.blank gap = true)
    (rest : Text) : (gap ++ (spelled ++ rest)).dropWhile isBlank = spelled ++ rest := by
  obtain ⟨first, more, rfl, visible, _⟩ := spells.bare.front
  exact Text.dropWhile_gap blankGap (more ++ rest) visible

theorem doubledSign?_of_spells (spells : Spells name spelled) (rest : Text) :
    doubledSign? ((spelled ++ rest).take 2) = none := by
  obtain ⟨isSigil, isName⟩ := spells
  obtain ⟨first, more, split, _, noSign, _⟩ := Text.exists_cons_of_identifier isSigil isName
  have other : ∀ sign ∈ ['+', '-'], ∀ others, first :: others ≠ [sign, sign] := by
    intro sign isSign others same
    rw [(List.cons.inj same).1] at noSign
    simp only [List.mem_cons, List.not_mem_nil, or_false] at isSign
    rcases isSign with rfl | rfl <;> exact noSign (by decide)
  rw [split, List.cons_append, List.take_succ_cons, doubledSign?, if_neg (other '+' (by decide) _),
    if_neg (other '-' (by decide) _)]

theorem readSigned?_eq (isSign : sign = '+' ∨ sign = '-') (blankGap : Text.blank gap = true)
    (read : Text.digitsValue? digits = some amount) :
    readSigned? (sign :: (gap ++ digits)) = some (sign, digits) := by
  obtain ⟨first, more, split, _, visible, _⟩ := Text.exists_first_digit read
  have decimal : Text.allDecimal digits = true := by
    obtain ⟨nonempty, isDigit⟩ := Text.all_isDigit_of_digitsValue? read
    rw [Text.allDecimal, List.isEmpty_eq_false_iff.mpr nonempty, Bool.not_false, Bool.true_and]
    exact List.all_eq_true.mpr fun letter member => isDecimal_of_isDigit (isDigit letter member)
  have passed : (gap ++ digits).dropWhile isBlank = digits := by
    rw [split]
    exact Text.dropWhile_gap blankGap more visible
  rw [readSigned?, passed, decimal]
  rcases isSign with rfl | rfl <;> rfl

theorem signedStep?_eq (read : Text.digitsValue? digits = some amount)
    (fits : amount ≤ maxUnsigned) : signedStep? sign digits = some (.of sign amount) := by
  obtain ⟨first, more, rfl, digit, _⟩ := Text.exists_first_digit read
  have noPlus : first ≠ '+' := by
    rintro rfl
    cases digit
  have unsigned : Text.unsigned? (first :: more) = some amount := by
    unfold Text.unsigned?
    split
    · rename_i same
      exact absurd (List.cons.inj same).1 noPlus
    · show Option.filter _ (Text.digitsValue? (first :: more)) = some amount
      rw [read, Option.filter_some, if_pos (decide_eq_true fits)]
  rw [signedStep?, unsigned]
  rfl

theorem IsStep.bare (isStep : IsStep names step statement) : Text.Bare statement := by
  cases isStep with
  | behind spells blankGap isSign =>
      refine spells.bare.append (Text.exists_last_append _ ⟨[_], _, rfl, ?_⟩)
      rcases isSign with rfl | rfl <;> decide
  | front spells blankGap isSign =>
      refine ⟨⟨_, _, rfl, ?_⟩,
        Text.exists_last_append [_, _] (Text.exists_last_append _ spells.bare.back)⟩
      rcases isSign with rfl | rfl <;> decide
  | signed spells blankGap isSign blankBehind read fits =>
      exact spells.bare.append (Text.exists_last_append _ (Text.exists_last_append [_, _]
        (Text.exists_last_append _ (Text.exists_last_digits read))))
  | assigned spells isPadded spellsOther blankGap isSign blankBehind read fits =>
      exact spells.bare.append (Text.exists_last_append _ (Text.exists_last_append _
        (Text.exists_last_append _ (Text.exists_last_append [_]
          (Text.exists_last_append _ (Text.exists_last_digits read))))))

theorem IsStep.unsplit (isStep : IsStep names step statement) : Text.Unsplit ';' statement := by
  have spelling : ∀ {name spelled : Text}, Spells name spelled → Text.Unsplit ';' spelled :=
    fun spells => Text.unsplit_of_isQuiet spells.all_isQuiet
  have blanks : ∀ {gap : Text}, Text.blank gap = true → Text.Unsplit ';' gap :=
    Text.unsplit_of (by decide +kernel)
  have number : ∀ {digits : Text} {amount : Nat}, Text.digitsValue? digits = some amount →
      Text.Unsplit ';' digits :=
    fun read => Text.unsplit_of_isQuiet (Text.all_isQuiet_of_digits read)
  have signs : ∀ {sign : Char}, sign = '+' ∨ sign = '-' →
      ∀ signs ∈ [[sign], [sign, sign], [sign, '=']], Text.Unsplit ';' signs := by
    rintro sign (rfl | rfl) signs listed
    all_goals
      refine @Text.unsplit_of ['+', '-', '='].contains (by decide) _ ?_
      revert signs
      decide
  have equals : Text.Unsplit ';' ['='] := fun _ _ _ => rfl
  cases isStep with
  | behind spells blankGap isSign =>
      exact (spelling spells).append ((blanks blankGap).append (signs isSign _ (by simp)))
  | @front _ _ _ sign spells blankGap isSign =>
      exact (signs isSign [sign, sign] (by simp)).append
        ((blanks blankGap).append (spelling spells))
  | @signed _ _ _ _ _ sign _ spells blankGap isSign blankBehind read _ =>
      exact (spelling spells).append ((blanks blankGap).append
        ((signs isSign [sign, '='] (by simp)).append ((blanks blankBehind).append (number read))))
  | @assigned _ _ _ _ _ _ _ _ sign _ spells isPadded spellsOther blankGap isSign blankBehind
      read _ =>
      exact (spelling spells).append ((isPadded.unsplit equals).append
        ((spelling spellsOther).append ((blanks blankGap).append
          ((signs isSign [sign] (by simp)).append ((blanks blankBehind).append (number read))))))

/-- A step is read if it is on the counter alone. -/
theorem IsStep.stepOf?_eq (isStep : IsStep names step statement) (counter : Text) :
    stepOf? statement counter =
      if ∀ name ∈ names, name = counter then some step else none := by
  have unnamed : ∀ {sign : Char}, sign = '+' ∨ sign = '-' →
      isWord sign = false ∧ isBlank sign = false ∧ sign ≠ '=' := by
    rintro sign (rfl | rfl) <;> decide +kernel
  rw [stepOf?, isStep.bare.trim_eq]
  cases isStep with
  | @behind name spelled gap sign spells blankGap isSign =>
      obtain ⟨noWord, visible, _⟩ := unnamed isSign
      have read := spells.readName? (Text.stops_gap (fun _ => id) blankGap noWord [sign])
      have passed := Text.dropWhile_gap blankGap [sign] visible
      simp only [doubledSign?_of_spells spells, read]
      by_cases same : name = counter
      · simp [same, passed]
        rcases isSign with rfl | rfl <;> rfl
      · simp [same]
  | @front name spelled gap sign spells blankGap isSign =>
      have doubled : doubledSign? [sign, sign] = some (.of sign 1) := by
        rcases isSign with rfl | rfl <;> rfl
      have passed := spells.dropWhile_gap blankGap []
      have read := @Spells.readName? name spelled [] spells rfl
      rw [List.append_nil] at passed read
      simp [doubled, passed, read]
  | @signed name spelled gap behind digits sign amount spells blankGap isSign blankBehind read
      fits =>
      obtain ⟨noWord, visible, noEqual⟩ := unnamed isSign
      have named := spells.readName?
        (Text.stops_gap (fun _ => id) blankGap noWord ('=' :: (behind ++ digits)))
      have passed := Text.dropWhile_gap blankGap ('=' :: (behind ++ digits)) visible
      simp only [doubledSign?_of_spells spells, named]
      by_cases same : name = counter
      · simp [same, passed, readSigned?_eq isSign blankBehind read, signedStep?_eq read fits]
      · simp [same]
  | @assigned name spelled assign other spelledOther gap behind digits sign amount spells isPadded
      spellsOther blankGap isSign blankBehind read fits =>
      obtain ⟨noWord, visible, noEqual⟩ := unnamed isSign
      obtain @⟨front, back, blankFront, blankBack⟩ := isPadded
      have named := spells.readName? (Text.stops_gap (fun _ => id) blankFront
        (by decide +kernel : isWord '=' = false)
        (back ++ (spelledOther ++ (gap ++ sign :: (behind ++ digits)))))
      have passed := Text.dropWhile_gap blankFront
        (back ++ (spelledOther ++ (gap ++ sign :: (behind ++ digits))))
        (by decide : isBlank '=' = false)
      have passedOther := spellsOther.dropWhile_gap blankBack (gap ++ sign :: (behind ++ digits))
      have namedOther := spellsOther.readName?
        (Text.stops_gap (fun _ => id) blankGap noWord (behind ++ digits))
      have passedSign := Text.dropWhile_gap blankGap (behind ++ digits) visible
      have regrouped : spelled ++ (front ++ (['='] ++ back) ++
          (spelledOther ++ (gap ++ sign :: (behind ++ digits)))) = spelled ++ (front ++
            '=' :: (back ++ (spelledOther ++ (gap ++ sign :: (behind ++ digits))))) := by simp
      simp only [regrouped, doubledSign?_of_spells spells, named]
      -- The number is read only if both names are the counter.
      by_cases same : name = counter
      · by_cases sameOther : other = counter
        · simp [same, sameOther, passed, passedOther, namedOther, passedSign,
            readSigned?_eq isSign blankBehind read, signedStep?_eq read fits]
        · simp [same, sameOther, passed, passedOther, namedOther]
      · simp [same]

end Steps

/-! ## Headers -/

/-- What a header of a counting loop says: its counter, where this starts, the name that it
compares, how and with which end, and the names that it moves by which step. -/
structure CountingHeader where
  counter : Text
  start : Text
  compared : Text
  comparison : Comparison
  limit : Text
  moved : List Text
  step : Step
  startIsEnd : HeaderEnd counter start
  limitIsEnd : HeaderEnd counter limit

/-- The ways to write a header. -/
inductive CountingHeader.IsWritten (header : CountingHeader) : Text → Prop
  | of_clauses {start condition step first second third : Text} :
      IsStart header.counter header.start start → Text.Padded start first →
      IsCondition header.compared header.comparison header.limit condition →
      Text.Padded condition second → IsStep header.moved header.step step →
      Text.Padded step third → header.IsWritten (first ++ ';' :: (second ++ ';' :: third))

/-- A header is read as its counter with the count that it states, if all its clauses are on the
counter, and as nothing otherwise. -/
theorem CountingHeader.counterHeader?_eq {header : CountingHeader} {text : Text}
    (isWritten : header.IsWritten text) :
    counterHeader? text =
      if header.compared = header.counter ∧ ∀ name ∈ header.moved, name = header.counter then
        (countTo? header.start header.comparison header.limit header.step).map
          (CounterHeader.mk header.counter)
      else none := by
  obtain @⟨start, condition, step, first, second, third, isStart, isFirst, isCondition, isSecond,
    isStep, isThird⟩ := isWritten
  have bareStart := isStart.bare header.startIsEnd.bare
  have bareCondition := isCondition.bare header.limitIsEnd
  have unsplitFirst := isFirst.unsplit (isStart.unsplit header.startIsEnd.all_isQuiet)
  have unsplitSecond := isSecond.unsplit (isCondition.unsplit header.limitIsEnd)
  have unsplitThird := isThird.unsplit isStep.unsplit
  have clauses : (Text.splitOutside ';' (first ++ ';' :: (second ++ ';' :: third))).map Text.trim =
      [start, condition, step] := by
    rw [unsplitFirst.splitOutside_append rfl, unsplitSecond.splitOutside_append rfl,
      unsplitThird.splitOutside, List.map_cons, List.map_cons, List.map_singleton,
      isFirst.trim_eq, isSecond.trim_eq, isThird.trim_eq, bareStart.trim_eq,
      bareCondition.trim_eq, isStep.bare.trim_eq]
  obtain ⟨found, hit, isCounter, isStartText⟩ :=
    isStart.exists_find? header.startIsEnd.bare header.startIsEnd.all_isQuiet
  rw [counterHeader?, clauses]
  simp only [hit, isCounter, isStartText, Option.bind_eq_bind, Option.bind_some,
    isCondition.comparisonOf?_eq header.limitIsEnd isStart.isIdentifier, isStep.stepOf?_eq]
  by_cases same : header.compared = header.counter
  · by_cases alone : ∀ name ∈ header.moved, name = header.counter
    · rw [if_pos same, if_pos alone, if_pos ⟨same, alone⟩, Option.bind_some, Option.bind_some]
      exact Option.map_eq_bind.symm
    · simp [same, alone]
  · simp [same]

/-- A header with a type of two words and a dollar sign, a reversed condition and a step that names
the counter twice: the even numbers below that of `n`. -/
theorem CountingHeader.counterHeader?_evens :
    counterHeader? "const std::size_t $i = 0; n - 1 >= i; i = i + 2".toList =
      some ⟨['i'], ⟨⟨.name ['n'], 0, 2⟩, .ascending⟩⟩ := by
  have isCounter : Spells ['i'] ['i'] := @Spells.of_sigil ['i'] [] (by decide) (by decide +kernel)
  have isBound : Spells ['n'] ['n'] := @Spells.of_sigil ['n'] [] (by decide) (by decide +kernel)
  let header : CountingHeader :=
    { counter := ['i'], start := ['0'], compared := ['i'], comparison := .lessOrEqual
      limit := "n - 1".toList, moved := [['i'], ['i']], step := .of '+' 2
      startIsEnd := @HeaderEnd.number ['i'] ['0'] 0 rfl
      limitIsEnd := @HeaderEnd.moved ['i'] ['n'] ['n'] ['-'] _ ['1'] 1 isBound (by decide)
        (by decide) (@Text.Padded.of_blank ['-'] [' '] [' '] rfl rfl) (by decide) rfl }
  let word : TypeWord :=
    { base := "const".toList, scopes := [], arguments? := none, mark := [], gap := [' ']
      areWords := by decide +kernel, closed := by simp, isMark := Or.inl rfl, isGap := by decide }
  let inScope : TypeWord :=
    { base := "std".toList, scopes := ["size_t".toList], arguments? := none, mark := []
      gap := [' ']
      areWords := by decide +kernel, closed := by simp, isMark := Or.inl rfl, isGap := by decide }
  have start : IsStart ['i'] ['0'] "const std::size_t $i = 0".toList :=
    @IsStart.of_types ['i'] ['0'] [word, inScope] ['$', 'i'] ['='] [' ', '=', ' ']
      (@Spells.of_sigil ['i'] ['$'] (by decide) (by decide +kernel)) (.plain (Or.inl rfl))
      (@Text.Padded.of_blank ['='] [' '] [' '] rfl rfl)
  have condition : IsCondition ['i'] .lessOrEqual "n - 1".toList "n - 1 >= i".toList :=
    @IsCondition.reversed ['i'] .lessOrEqual "n - 1".toList ['i'] [' ', '>', '=', ' '] (by decide)
      isCounter (@Text.Padded.of_blank ['>', '='] [' '] [' '] rfl rfl)
  have step : IsStep [['i'], ['i']] (.of '+' 2) "i = i + 2".toList :=
    @IsStep.assigned ['i'] ['i'] [' ', '=', ' '] ['i'] ['i'] [' '] [' '] ['2'] '+' 2 isCounter
      (@Text.Padded.of_blank ['='] [' '] [' '] rfl rfl) isCounter rfl (Or.inl rfl) rfl rfl
      (by decide)
  have isWritten : header.IsWritten "const std::size_t $i = 0; n - 1 >= i; i = i + 2".toList :=
    @IsWritten.of_clauses header _ _ _ "const std::size_t $i = 0".toList " n - 1 >= i".toList
      " i = i + 2".toList start (@Text.Padded.of_blank _ [] [] rfl rfl) condition
      (@Text.Padded.of_blank _ [' '] [] rfl rfl) step (@Text.Padded.of_blank _ [' '] [] rfl rfl)
  have counted : countTo? ['0'] .lessOrEqual "n - 1".toList (.of '+' 2) =
      some ⟨⟨.name ['n'], 0, 2⟩, .ascending⟩ := by decide +kernel
  rw [CountingHeader.counterHeader?_eq isWritten, if_pos ⟨rfl, by simp [header]⟩]
  exact congrArg (Option.map (CounterHeader.mk ['i'])) counted

end InputDemand
