import InputDemand.Loop.Counter
import InputDemand.Proofs.Program.Brackets
import InputDemand.Proofs.Program.Sure

/-!
# Headers that count up to a name

A header of three clauses that starts its counter at zero, goes on while it is less than a name, and
counts up by one: such a loop runs as often as the value of the name says.
-/

namespace InputDemand

/-! ## Names in expressions -/

section Names

variable {name rest : Text} {sigil : Template}

/-- A name with a dollar sign in front, or without one. -/
def sigils : List Text :=
  [[], ['$']]

/-- An identifier, with or without a dollar sign, is read up to where its word ends. -/
theorem Text.readName?_identifier {sigil : Text} (isSigil : sigil ∈ sigils)
    (isName : Text.isIdentifier name = true)
    (stops : rest.head?.all (fun letter => !isWord letter) = true) :
    Text.readName? (sigil ++ (name ++ rest)) = some (name, rest) := by
  obtain ⟨first, more, split, starts, words⟩ := Text.exists_cons_of_isIdentifier isName
  have noDollar : first ≠ '$' := by
    rintro rfl
    cases starts
  have bare : Text.dropSigil (sigil ++ (name ++ rest)) = name ++ rest := by
    simp only [sigils, List.mem_cons, List.not_mem_nil, or_false] at isSigil
    rcases isSigil with rfl | rfl
    · rw [split, List.nil_append, List.cons_append, Text.dropSigil]
      intro others same
      exact noDollar (List.cons.inj same).1
    · rfl
  have ends := Text.span_append (List.all_eq_true.mp words) stops
  rw [Text.readName?, bare, split]
  simp only [List.cons_append, starts, if_true]
  rw [ends.1, ends.2]

theorem Text.readName?_append {sigil : Text} (isSigil : sigil ∈ sigils)
    (isName : Text.isName name = true)
    (stops : rest.head?.all (fun letter => !isWord letter) = true) :
    Text.readName? (sigil ++ (name ++ rest)) = some (name, rest) :=
  Text.readName?_identifier isSigil (Text.isIdentifier_of_isName isName) stops

/-- An identifier, with or without a dollar sign, starts with no digit, sign, bracket or blank. -/
theorem Text.exists_cons_of_identifier {sigil : Text} (isSigil : sigil ∈ sigils)
    (isName : Text.isIdentifier name = true) :
    ∃ first more, sigil ++ name = first :: more ∧ first.isDigit = false ∧
      first ∉ ['-', '+', '('] ∧ isDecimal first = false ∧ isBlank first = false := by
  simp only [sigils, List.mem_cons, List.not_mem_nil, or_false] at isSigil
  rcases isSigil with rfl | rfl
  · obtain ⟨first, more, split, starts, _⟩ := Text.exists_cons_of_isIdentifier isName
    have passed : passedByNames (fun letter => !isNameStart letter ||
        (!letter.isDigit && (decide (letter ∉ ['-', '+', '(']) &&
          (!isDecimal letter && !isBlank letter)))) = true := by decide +kernel
    have tested := test_of_isNameLetter passed (Text.isNameLetter_of_isNameStart starts)
    simp only [starts, Bool.not_true, Bool.false_or, Bool.and_eq_true, Bool.not_eq_true',
      decide_eq_true_eq] at tested
    exact ⟨first, more, split, tested⟩
  · exact ⟨'$', name, rfl, by decide, by decide, by decide +kernel, by decide +kernel⟩

/-- A name, with or without a dollar sign, starts with no digit, sign or bracket. -/
theorem Text.exists_cons_of_isSigil {sigil : Text} (isSigil : sigil ∈ sigils)
    (isName : Text.isName name = true) :
    ∃ first more, sigil ++ name = first :: more ∧ first.isDigit = false ∧
      first ∉ ['-', '+', '('] := by
  obtain ⟨first, more, split, noDigit, noSign, _⟩ :=
    Text.exists_cons_of_identifier isSigil (Text.isIdentifier_of_isName isName)
  exact ⟨first, more, split, noDigit, noSign⟩

theorem Text.signed?_eq_none {sigil : Text} (isSigil : sigil ∈ sigils)
    (isName : Text.isName name = true) : Text.signed? (sigil ++ name) = none := by
  obtain ⟨first, more, split, noDigit, noSign⟩ := Text.exists_cons_of_isSigil isSigil isName
  rw [split, Text.signed?]
  · rw [Text.digitsValue?, List.all_cons, noDigit]
    rfl
  · intro others same
    rw [(List.cons.inj same).1] at noSign
    exact noSign (by decide)
  · intro others same
    rw [(List.cons.inj same).1] at noSign
    exact noSign (by decide)

theorem Text.stripParentheses_eq_self {text : Text} (bare : text.head? ≠ some '(') (rounds : Nat) :
    Text.stripParentheses rounds text = text := by
  cases rounds with
  | zero => rfl
  | succ rounds =>
      rw [Text.stripParentheses, if_neg]
      rw [Bool.and_eq_true, decide_eq_true_eq]
      exact fun both => bare both.1

theorem Linear.ofText?_of_isName {sigil expression : Text} (isSigil : sigil ∈ sigils)
    (isName : Text.isName name = true) (free : name ∉ Linear.reserved)
    (trimmed : Text.trim expression = sigil ++ name) :
    Linear.ofText? expression = some ⟨some name, 0⟩ := by
  obtain ⟨first, more, split, _, noBracket⟩ := Text.exists_cons_of_isSigil isSigil isName
  have bare : (sigil ++ name).head? ≠ some '(' := by
    rw [split]
    intro same
    cases same
    exact noBracket (by decide)
  have read : Text.readName? (sigil ++ name) = some (name, []) := by
    have whole := @Text.readName?_append name [] sigil isSigil isName rfl
    rwa [List.append_nil] at whole
  rw [Linear.ofText?, trimmed, Text.stripParentheses_eq_self bare,
    Text.signed?_eq_none isSigil isName, Linear.ofNameFirst?, read]
  simp [free]

theorem stepOf?_increment {sigil : Text} (isSigil : sigil ∈ sigils)
    (isName : Text.isName name = true) :
    stepOf? (sigil ++ (name ++ ['+', '+'])) name = some (.up 1) := by
  have read : Text.readName? (sigil ++ (name ++ ['+', '+'])) = some (name, ['+', '+']) :=
    Text.readName?_append isSigil isName rfl
  have trimmed : Text.trim (sigil ++ (name ++ ['+', '+'])) = sigil ++ (name ++ ['+', '+']) := by
    apply Text.trim_eq_self
    simp only [sigils, List.mem_cons, List.not_mem_nil, or_false] at isSigil
    rcases isSigil with rfl | rfl <;>
      simp only [List.nil_append, List.cons_append, List.all_append, List.all_cons,
        Text.not_isBlank_of_isName isName] <;> rfl
  have undoubled : doubledSign? ((sigil ++ (name ++ ['+', '+'])).take 2) = none := by
    obtain ⟨first, more, split, _, noSign⟩ := Text.exists_cons_of_isSigil isSigil isName
    have other : ∀ sign ∈ ['+', '-'], ∀ others, first :: others ≠ [sign, sign] := by
      intro sign isSign others same
      rw [(List.cons.inj same).1] at noSign
      simp only [List.mem_cons, List.not_mem_nil, or_false] at isSign
      rcases isSign with rfl | rfl <;> exact noSign (by decide)
    rw [← List.append_assoc, split, List.cons_append, List.take_succ_cons, doubledSign?,
      if_neg (other '+' (by decide) _), if_neg (other '-' (by decide) _)]
  rw [stepOf?, trimmed]
  simp only [undoubled, read]
  simp
  rfl

end Names

/-! ## Three clauses -/

/-- The clauses of a header, with the counter `name 0` and the bound `name 1`. -/
structure Clauses where
  start : Template
  condition : Template
  step : Template

namespace Clauses

def template (clauses : Clauses) : Template :=
  clauses.start ++ .letter ';' :: (clauses.condition ++ .letter ';' :: clauses.step)

def isWhole (clause : Template) : Bool :=
  clause.all (Sign.passes fun letter => isUnbracketed letter && letter != ';')

/-- Whether the start assigns zero to the counter behind some words. -/
def startsAtZero (clauses : Clauses) (counter assigned : Template) : Bool :=
  startClause.hits true .textStart clauses.start.trim fun trace =>
    trace.keeps 1 counter assigned && (trace.keeps 2 "0" [] || trace.keeps 2 " 0" [])

/-- Whether the condition compares the counter with the bound. -/
def staysBelow (clauses : Clauses) (counter bound : Template) : Bool :=
  InputDemand.condition.hits true .textStart clauses.condition.trim fun trace =>
    trace.keeps 1 counter (" < " ++ bound) && trace.keeps 2 "<" (" " ++ bound) &&
      (trace.keeps 3 bound [] || trace.keeps 3 (" " ++ bound) [])

/-- Whether the clauses count the counter up from zero to the bound, both with a sigil. -/
def counts (clauses : Clauses) (sigil assigned : Template) : Bool :=
  isWhole clauses.start && isWhole clauses.condition && isWhole clauses.step &&
    clauses.startsAtZero (sigil ++ Template.name 0) assigned &&
    clauses.staysBelow (sigil ++ Template.name 0) (sigil ++ Template.name 1) &&
    clauses.step.trim = sigil ++ (Template.name 0 ++ "++")

end Clauses

section Header

variable {names : Nat → Text} {pattern : Pattern} {template : Template} {test : Trace → Bool}
  {clauses : Clauses} {sigil assigned : Template} {signs : Text}

theorem Pattern.find?_of_hits (areNames : ∀ index, Text.isName (names index) = true)
    (hits : pattern.hits true .textStart template test = true) :
    ∃ found trace, pattern.find? (fill names template) = some found ∧
      trace.Shows names [] ⟨found.stop, found.kept⟩ ∧ test trace = true := by
  have ends : true = true → ([] : Text) = [] := fun _ => rfl
  have atStart : Front.textStart.Shows ([] : Text) := rfl
  obtain ⟨found, trace, matched, _, shown, tested⟩ :=
    Pattern.exists_matchAt?_of_hits areNames ends atStart hits
  rw [List.append_nil] at matched
  exact ⟨found, trace, Pattern.Hunt.findFrom?_of_matchAt? matched, shown, tested⟩

theorem splitOutside_clauses (areNames : ∀ index, Text.isName (names index) = true)
    (start : Clauses.isWhole clauses.start = true)
    (condition : Clauses.isWhole clauses.condition = true)
    (step : Clauses.isWhole clauses.step = true) :
    Text.splitOutside ';' (fill names clauses.template) =
      [fill names clauses.start, fill names clauses.condition, fill names clauses.step] := by
  have passed : passedByNames (fun letter => isUnbracketed letter && letter != ';') = true := by
    decide +kernel
  have whole : ∀ clause, Clauses.isWhole clause = true → (fill names clause).all
      (fun letter => isUnbracketed letter && letter != ';') = true := fun clause checked =>
    all_fill passed areNames checked
  rw [Clauses.template, fill_append, fill_cons, fill_append, fill_cons, Sign.fill_letter,
    List.singleton_append, List.singleton_append, Text.splitOutside_append rfl (whole _ start),
    Text.splitOutside_append rfl (whole _ condition), Text.splitOutside_eq (whole _ step)]

theorem bareName_append (isSigil : signs ∈ sigils) {name : Text}
    (isName : Text.isName name = true) : Text.bareName (signs ++ name) = name := by
  have kept : name.all (fun letter => !decide (letter = '$')) = true :=
    Text.all_of_isName (by decide +kernel) isName
  simp only [sigils, List.mem_cons, List.not_mem_nil, or_false] at isSigil
  rcases isSigil with rfl | rfl
  · exact Text.dropWhile_eq_self kept
  · exact Text.dropWhile_eq_self kept

/-- The distance from a number to a name, plus that number, is the value of the name. -/
theorem tripBetween_name {near far name : Text} {low : Int}
    (first : Linear.ofText? near = some ⟨none, low⟩)
    (last : Linear.ofText? far = some ⟨some name, 0⟩)
    (fits : ((signed? (0 - low)).bind fun distance => signed? (distance + low)) = some 0)
    (stride : Nat) : tripBetween near far low stride = ⟨.name name, 0, stride⟩ := by
  rw [tripBetween, first, last]
  simp only [fits]

/-- A name behind a sigil, perhaps with a blank in front, is an expression. -/
theorem ofText?_sigil (isSigil : signs ∈ sigils) {name expression : Text}
    (isName : Text.isName name = true) (free : name ∉ Linear.reserved)
    (spelled : expression = signs ++ name ∨ expression = ' ' :: (signs ++ name)) :
    Linear.ofText? expression = some ⟨some name, 0⟩ := by
  have visible : (signs ++ name).all (fun letter => !isBlank letter) = true := by
    simp only [sigils, List.mem_cons, List.not_mem_nil, or_false] at isSigil
    rcases isSigil with rfl | rfl <;>
      rw [List.all_append, Text.not_isBlank_of_isName isName] <;> rfl
  have trimmed : Text.trim (signs ++ name) = signs ++ name := Text.trim_eq_self visible
  rcases spelled with rfl | rfl
  · exact Linear.ofText?_of_isName isSigil isName free trimmed
  · exact Linear.ofText?_of_isName isSigil isName free trimmed

/-- A loop that counts up from zero runs as often as the value of its bound says. -/
theorem counterHeader?_of_counts (areNames : ∀ index, Text.isName (names index) = true)
    (free : names 1 ∉ Linear.reserved) (isSigil : fill names sigil ∈ sigils)
    (counts : clauses.counts sigil assigned = true) :
    counterHeader? (fill names clauses.template) =
      some ⟨names 0, ⟨⟨.name (names 1), 0, 1⟩, .ascending⟩⟩ := by
  simp only [Clauses.counts, Bool.and_eq_true, decide_eq_true_eq] at counts
  obtain ⟨⟨⟨⟨⟨start, condition⟩, step⟩, zero⟩, below⟩, increment⟩ := counts
  obtain ⟨first, trace, foundStart, shown, tested⟩ := Pattern.find?_of_hits areNames zero
  obtain ⟨second, trace', foundCondition, shown', tested'⟩ := Pattern.find?_of_hits areNames below
  simp only [Bool.and_eq_true, Bool.or_eq_true] at tested tested'
  obtain ⟨counter, near⟩ := tested
  obtain ⟨⟨counter', sign⟩, far⟩ := tested'
  -- What the two patterns keep is read: the counter twice, where it starts, and the bound.
  have isCounter : ∀ {found : Match}, found.group 1 = fill names (sigil ++ Template.name 0) →
      Text.bareName (found.group 1) = names 0 := by
    intro found kept
    rw [kept, fill_append, fill_name]
    exact bareName_append isSigil (areNames 0)
  have fromZero : Linear.ofText? (first.group 2) = some ⟨none, 0⟩ := by
    rcases near with near | near
    · rw [shown.group near, fill_map_letter]
      decide +kernel
    · rw [shown.group near, fill_map_letter]
      decide +kernel
  have toBound : Linear.ofText? (second.group 3) = some ⟨some (names 1), 0⟩ := by
    apply ofText?_sigil isSigil (areNames 1) free
    rcases far with far | far
    · left
      rw [shown'.group far, fill_append, fill_name]
    · right
      rw [shown'.group far, fill_append, fill_map_letter, fill_append, fill_name]
      rfl
  have comparison : comparisonOf? (fill names clauses.condition.trim) (names 0) =
      some (.less, second.group 3) := by
    have less : Comparison.ofSign (second.group 2) = .less := by
      rw [shown'.group sign, fill_map_letter]
      decide
    rw [comparisonOf?, foundCondition, Option.filter_some,
      if_pos (decide_eq_true (isCounter (shown'.group counter')))]
    show some (Comparison.ofSign (second.group 2), second.group 3) = _
    rw [less]
  have stepped : stepOf? (fill names clauses.step.trim) (names 0) = some (.up 1) := by
    rw [increment, fill_append, fill_append, fill_name, fill_map_letter]
    exact stepOf?_increment isSigil (areNames 0)
  have counted : countTo? (first.group 2) .less (second.group 3) (.up 1) =
      some ⟨⟨.name (names 1), 0, 1⟩, .ascending⟩ := by
    rw [countTo?, tripBetween_name fromZero toBound rfl]
    exact Nat.one_ne_zero
  rw [counterHeader?, splitOutside_clauses areNames start condition step]
  simp [trim_fill areNames, foundStart, isCounter (shown.group counter), comparison, stepped,
    counted]

end Header

end InputDemand
