import InputDemand.Proofs.Loop.Range
import InputDemand.Recognition.CounterLoops

/-!
# Sequences

A loop over a sequence passes once for each element of the vector that the sequence builds.  Between
two ends this vector rises or falls as their values stand and is never empty, while a count states
beforehand in which direction a loop runs.  The count is the number of elements just if the vector
runs that way, which leaves the sequences with one end in a variable: they are read as rising from a
number and as falling to one.
-/

namespace InputDemand

/-! ## Vectors -/

/-- A vector that starts at a value and moves on by a step while its values are within an end. -/
inductive Progression (within : Int → Prop) (step : Int) : Int → List Int → Prop
  | done {value : Int} : ¬ within value → Progression within step value []
  | next {value : Int} {values : List Int} : within value →
      Progression within step (value + step) values →
      Progression within step value (value :: values)

/-- Whether the values of a vector run in a direction. -/
def Direction.Orders (direction : Direction) (values : List Int) : Prop :=
  match direction with
  | .ascending => values.Pairwise (· < ·)
  | .descending => values.Pairwise (· > ·)

/-- Whether a step leads in a direction. -/
def Direction.Leads (direction : Direction) (step : Int) : Prop :=
  match direction with
  | .ascending => 0 < step
  | .descending => step < 0

namespace Progression

variable {within : Int → Prop} {step first : Int} {values : List Int}

theorem takes (progression : Progression within step first values) :
    Takes within step first values.length := by
  induction progression with
  | done beyond => exact .stop beyond
  | next inside _ inductionHypothesis => exact .next inside inductionHypothesis

theorem exists_index_of_mem (progression : Progression within step first values) :
    ∀ value ∈ values, ∃ index : Nat, value = first + index * step := by
  induction progression with
  | done _ => simp
  | next _ _ inductionHypothesis =>
      intro value member
      rcases List.mem_cons.mp member with rfl | behind
      · exact ⟨0, by simp⟩
      · obtain ⟨index, rfl⟩ := inductionHypothesis value behind
        exact ⟨index + 1, counter_succ _ _ _⟩

/-- The vector runs in the direction in which its step leads. -/
theorem orders {direction : Direction} (leads : direction.Leads step)
    (progression : Progression within step first values) : direction.Orders values := by
  induction progression with
  | done _ => cases direction <;> exact List.Pairwise.nil
  | @next value values _ rest inductionHypothesis =>
      have behind : ∀ later ∈ values, direction.Leads (later - value) := by
        intro later member
        obtain ⟨index, rfl⟩ := rest.exists_index_of_mem later member
        cases direction with
        | ascending =>
            have moved := Int.mul_nonneg (Int.natCast_nonneg index) (Int.le_of_lt leads)
            simp only [Direction.Leads] at leads ⊢
            omega
        | descending =>
            have moved := Int.mul_nonpos_of_nonneg_of_nonpos (Int.natCast_nonneg index)
              (Int.le_of_lt leads)
            simp only [Direction.Leads] at leads ⊢
            omega
      cases direction with
      | ascending =>
          exact List.Pairwise.cons (fun later member => Int.lt_of_sub_pos (behind later member))
            inductionHypothesis
      | descending =>
          exact List.Pairwise.cons (fun later member => Int.lt_of_sub_neg (behind later member))
            inductionHypothesis

end Progression

/-- A vector that runs in one direction runs in the other only if it has no two values. -/
theorem Direction.orders_iff {direction other : Direction} {values : List Int}
    (runs : other.Orders values) :
    direction.Orders values ↔ direction = other ∨ values.length ≤ 1 := by
  match values with
  | [] => cases direction <;> simp [Orders]
  | [_] => cases direction <;> simp [Orders]
  | first :: second :: more =>
      cases direction <;> cases other
      all_goals
        simp only [Orders, List.pairwise_cons, List.mem_cons] at runs ⊢
        have pair := runs.1 second (Or.inl rfl)
        simp
        grind

/-! ## Sequences as they are written -/

/-- A sequence of whole numbers: between two ends, from one up to a length, between two ends by a
step. -/
inductive Sequence where
  | ends (first last : Text)
  | upTo (length : Text)
  | steps (first last step : Text)

/-- The expressions that a colon takes whole: it binds tighter than addition and subtraction, which
need parentheses beside it. -/
inductive Operand : Text → Prop
  | number {digits : Text} {amount : Nat} : Text.digitsValue? digits = some amount → Operand digits
  | signed {text : Text} {value : Int} : SignedNumber text value → Operand text
  | name {sigil name : Text} : sigil ∈ sigils → Text.isIdentifier name = true →
      Operand (sigil ++ name)
  | padded {front text back : Text} : Text.blank front = true → Text.blank back = true →
      Operand text → Operand (front ++ (text ++ back))
  | enclosed {text : Text} : Operand ('(' :: (text ++ [')']))

/-- An argument that gives a value, perhaps with its name in front. -/
inductive Labelled (label : Text) : Text → Text → Prop
  | bare {value : Text} : Labelled label value value
  | named {front gap value : Text} : Text.blank front = true → Text.blank gap = true →
      Labelled label (front ++ (label ++ (gap ++ '=' :: value))) value

namespace Sequence

/-- The ways to write a sequence. -/
inductive IsWritten : Sequence → Text → Prop
  | colon {first last : Text} : Operand first → Operand last →
      IsWritten (ends first last) (first ++ ':' :: last)
  | length {length : Text} : IsWritten (upTo length) ("seq_len(".toList ++ (length ++ [')']))
  | call {start stop first last : Text} : Labelled "from".toList start first →
      Labelled "to".toList stop last →
      IsWritten (ends first last) ("seq(".toList ++ (start ++ ',' :: stop ++ [')']))
  | callBy {start stop move first last step : Text} : Labelled "from".toList start first →
      Labelled "to".toList stop last → Labelled "by".toList move step →
      IsWritten (steps first last step)
        ("seq(".toList ++ (start ++ ',' :: (stop ++ ',' :: move) ++ [')']))

/-- The vector that a sequence builds.  There is none up to a negative length, and none by a step
that leads away from the end; a step of zero stays where both ends are the same. -/
inductive Builds (valueOf : Text → Int) : Sequence → List Int → Prop
  | rising {first last : Text} {low high : Int} {values : List Int} : Denotes valueOf first low →
      Denotes valueOf last high → low ≤ high → Progression (· ≤ high) 1 low values →
      Builds valueOf (ends first last) values
  | falling {first last : Text} {low high : Int} {values : List Int} : Denotes valueOf first high →
      Denotes valueOf last low → low < high → Progression (low ≤ ·) (-1) high values →
      Builds valueOf (ends first last) values
  | upTo {length : Text} {number : Int} {values : List Int} : Denotes valueOf length number →
      0 ≤ number → Progression (· ≤ number) 1 1 values → Builds valueOf (upTo length) values
  | upwards {first last step : Text} {low high stride : Int} {values : List Int} :
      Denotes valueOf first low → Denotes valueOf last high → Denotes valueOf step stride →
      0 < stride → low ≤ high → Progression (· ≤ high) stride low values →
      Builds valueOf (steps first last step) values
  | downwards {first last step : Text} {low high stride : Int} {values : List Int} :
      Denotes valueOf first high → Denotes valueOf last low → Denotes valueOf step stride →
      stride < 0 → low ≤ high → Progression (low ≤ ·) stride high values →
      Builds valueOf (steps first last step) values
  | still {first last step : Text} {value : Int} : Denotes valueOf first value →
      Denotes valueOf last value → Denotes valueOf step 0 →
      Builds valueOf (steps first last step) [value]

def texts : Sequence → List Text
  | ends first last => [first, last]
  | upTo length => [length]
  | steps first last step => [first, last, step]

def count? : Sequence → Option Count
  | ends first last => sequenceCount? first last
  | upTo length => countTo? ['1'] .lessOrEqual length (.up 1)
  | steps first last step => steppedCount? [first, last, Text.trim step]

end Sequence

/-! ## How a sequence is read -/

namespace Text

theorem exists_last_trim {text : Text} (notBlank : trim text ≠ []) :
    ∃ more last, trim text = more ++ [last] ∧ isBlank last = false := by
  rw [trim, trimRightBy] at notBlank ⊢
  have kept : (trimLeftBy isBlank text).reverse.dropWhile isBlank ≠ [] :=
    mt (congrArg List.reverse) notBlank
  have visible := List.head_dropWhile_not isBlank kept
  obtain ⟨last, more, split⟩ := List.exists_cons_of_ne_nil kept
  simp only [split, List.head_cons] at visible
  exact ⟨more.reverse, last, by rw [split, List.reverse_cons], visible⟩

end Text

theorem Linear.ofText?_trim (text : Text) : ofText? (Text.trim text) = ofText? text := by
  obtain ⟨front, back, split, blankFront, blankBack⟩ := Text.exists_trim text
  have padded := ofText?_padded blankFront blankBack (Text.trim text)
  rw [← split] at padded
  exact padded.symm

theorem tripBetween_trim (near far : Text) (extra : Int) (stride : Nat) :
    tripBetween (Text.trim near) (Text.trim far) extra stride =
      tripBetween near far extra stride := by
  simp only [tripBetween, Linear.ofText?_trim, Text.trim_trim]

theorem countTo?_trim (start : Text) (comparison : Comparison) (limit : Text) (step : Step) :
    countTo? (Text.trim start) comparison (Text.trim limit) step =
      countTo? start comparison limit step := by
  unfold countTo?
  simp only [tripBetween_trim]

theorem sequenceCount?_trim (first last : Text) :
    sequenceCount? (Text.trim first) (Text.trim last) = sequenceCount? first last := by
  simp only [sequenceCount?, Linear.ofText?_trim, countTo?_trim]

/-- No expression holds a sign of equality. -/
theorem Denotes.not_mem_equals {valueOf : Text → Int} {text : Text} {value : Int}
    (denotes : Denotes valueOf text value) : '=' ∉ text := by
  have noBlank : ∀ {gap : Text}, Text.blank gap = true → '=' ∉ gap := by
    intro gap blankGap member
    have blankSign := List.all_eq_true.mp blankGap _ member
    revert blankSign
    decide +kernel
  have noDigits : ∀ {digits : Text} {amount : Nat}, Text.digitsValue? digits = some amount →
      '=' ∉ digits := by
    intro digits amount read member
    cases (Text.all_isDigit_of_digitsValue? read).2 _ member
  have noName : ∀ {sigil name : Text}, sigil ∈ sigils → Text.isIdentifier name = true →
      '=' ∉ sigil ∧ '=' ∉ name := by
    intro sigil name isSigil isName
    constructor
    · simp only [sigils, List.mem_cons, List.not_mem_nil, or_false] at isSigil
      rcases isSigil with rfl | rfl <;> decide
    · intro member
      have word := List.all_eq_true.mp (Text.all_isWord_of_isIdentifier isName) _ member
      revert word
      decide +kernel
  have noSigned : ∀ {text : Text} {value : Int}, SignedNumber text value → '=' ∉ text := by
    intro text value number
    obtain ⟨sign, gap, digits, amount, rfl, isSign, blankGap, read, _⟩ := number.exists_parts
    rcases isSign with rfl | rfl <;> simp [noBlank blankGap, noDigits read]
  induction denotes with
  | number read => exact noDigits read
  | signed number => exact noSigned number
  | name isSigil isName => simp [noName isSigil isName]
  | moved isSigil isName blankGap number =>
      simp [noName isSigil isName, noBlank blankGap, noSigned number]
  | sum read blankGap blankBehind isSigil isName =>
      simp [noDigits read, noBlank blankGap, noBlank blankBehind, noName isSigil isName]
  | padded blankFront blankBack _ inductionHypothesis =>
      simp [noBlank blankFront, noBlank blankBack, inductionHypothesis]
  | enclosed _ inductionHypothesis => simp [inductionHypothesis]

section Labels

variable {valueOf : Text → Int} {label argument text : Text} {value : Int}

/-- An argument with its name is no more split than its value, and not blank. -/
theorem Labelled.unsplit (labelled : Labelled label argument text)
    (isName : Text.isIdentifier label = true) (denotes : Denotes valueOf text value)
    {separator : Char} (separates : separator ∈ separators) : Text.Unsplit separator argument := by
  cases labelled with
  | bare => exact denotes.unsplit separates
  | @named front gap _ blankFront blankGap =>
      have plain : ([] ++ label).all isPlain = true := all_isPlain_of_identifier (by decide) isName
      have head : (front ++ (label ++ (gap ++ ['=']))).all isPlain = true := by
        rw [List.nil_append] at plain
        rw [List.all_append, List.all_append, List.all_append, plain,
          all_isPlain_of_blank blankFront, all_isPlain_of_blank blankGap]
        decide
      have whole := (Text.unsplit_of_isPlain separates head).append (denotes.unsplit separates)
      simpa using whole

/-- The value of an argument is read off it without its name. -/
theorem Labelled.argumentValue_trim (labelled : Labelled label argument text)
    (isName : Text.isIdentifier label = true) (denotes : Denotes valueOf text value) :
    argumentValue (Text.trim argument) = Text.trim text ∧ Text.trim argument ≠ [] := by
  cases labelled with
  | bare =>
      have unlabelled : (Text.trim argument).dropWhile (· ≠ '=') = [] := by
        refine List.dropWhile_eq_nil_iff.mpr fun letter member => decide_eq_true_iff.mpr ?_
        rintro rfl
        exact denotes.trim.1.not_mem_equals member
      rw [argumentValue, unlabelled]
      exact ⟨rfl, denotes.trim.2⟩
  | @named before gap text blankBefore blankGap =>
      obtain ⟨front, back, split, blankFront, blankBack⟩ := Text.exists_trim text
      -- The blanks behind the value go with those around the argument, those in front of it later.
      have bare : Text.Bare (label ++ (gap ++ '=' :: (front ++ Text.trim text))) := by
        have ends := Text.exists_last_append (label ++ (gap ++ '=' :: front))
          (Text.exists_last_trim denotes.trim.2)
        simp only [List.append_assoc, List.cons_append] at ends
        exact @Text.bare_behind [] label _ (by decide) isName ends
      have kept : Text.trim (before ++ (label ++ (gap ++ '=' :: text))) =
          label ++ (gap ++ '=' :: (front ++ Text.trim text)) := by
        have padded := Text.trim_padded blankBefore blankBack
          (label ++ (gap ++ '=' :: (front ++ Text.trim text)))
        rw [bare.trim_eq] at padded
        conv_lhs => rw [split]
        simpa using padded
      have noSign : ∀ letter ∈ label ++ gap, decide (letter ≠ '=') = true := by
        intro letter member
        rw [decide_eq_true_iff]
        rintro rfl
        rcases List.mem_append.mp member with inLabel | inGap
        · have word := List.all_eq_true.mp (Text.all_isWord_of_isIdentifier isName) _ inLabel
          revert word
          decide +kernel
        · have blankSign := List.all_eq_true.mp blankGap _ inGap
          revert blankSign
          decide +kernel
      have value : Text.trim (front ++ Text.trim text) = Text.trim text := by
        have padded := Text.trim_padded blankFront (rfl : Text.blank [] = true) (Text.trim text)
        rwa [List.append_nil, Text.trim_trim] at padded
      rw [kept, argumentValue, ← List.append_assoc, List.dropWhile_append_of_pos noSign]
      exact ⟨value, by simp⟩

end Labels

theorem callInside?_call (name inside : Text) :
    callInside? name (name ++ (inside ++ [')'])) = some inside := by
  simp [callInside?]

theorem exists_sequenceCount? (first last : Text) :
    ∃ count, sequenceCount? first last = some count := by
  unfold sequenceCount?
  dsimp only
  split
  · split <;> exact ⟨_, rfl⟩
  · exact ⟨_, rfl⟩
  · exact ⟨_, rfl⟩

/-- A list of arguments holds a colon only where these do. -/
theorem ListsArguments.unsplit_colon {arguments : List Text} {text : Text}
    (lists : ListsArguments arguments text)
    (unsplit : ∀ argument ∈ arguments, Text.Unsplit ':' argument) : Text.Unsplit ':' text := by
  have comma : Text.Unsplit ':' [','] := fun _ _ _ => rfl
  induction lists with
  | last => exact unsplit _ List.mem_cons_self
  | closed blankGap =>
      exact (unsplit _ List.mem_cons_self).append
        (comma.append (Text.unsplit_of_isPlain (by decide) (all_isPlain_of_blank blankGap)))
  | next _ inductionHypothesis =>
      exact (unsplit _ List.mem_cons_self).append (comma.append (inductionHypothesis
        fun argument member => unsplit argument (List.mem_cons_of_mem _ member)))

section Reading

variable {valueOf : Text → Int} {sequence : Sequence} {text : Text}

theorem Sequence.Builds.denote {values : List Int} (builds : sequence.Builds valueOf values) :
    ∀ text ∈ sequence.texts, ∃ value, Denotes valueOf text value := by
  cases builds with
  | rising denotesFirst denotesLast _ _ => simpa [texts] using ⟨⟨_, denotesFirst⟩, _, denotesLast⟩
  | falling denotesFirst denotesLast _ _ => simpa [texts] using ⟨⟨_, denotesFirst⟩, _, denotesLast⟩
  | upTo denotesLength _ _ => simpa [texts] using ⟨_, denotesLength⟩
  | upwards denotesFirst denotesLast denotesStep _ _ _ =>
      simpa [texts] using ⟨⟨_, denotesFirst⟩, ⟨_, denotesLast⟩, _, denotesStep⟩
  | downwards denotesFirst denotesLast denotesStep _ _ _ =>
      simpa [texts] using ⟨⟨_, denotesFirst⟩, ⟨_, denotesLast⟩, _, denotesStep⟩
  | still denotesFirst denotesLast denotesStep =>
      simpa [texts] using ⟨⟨_, denotesFirst⟩, ⟨_, denotesLast⟩, _, denotesStep⟩

/-- What a call states: the parts are read only if nothing is split at a colon, which a call holds
in its brackets. -/
theorem sequenceTextCount?_call {name inside : Text} (plain : name.all isPlain = true)
    (unsplit : Text.Unsplit ':' inside) :
    sequenceTextCount? (name ++ '(' :: (inside ++ [')'])) =
      ((callInside? "seq_len(".toList (name ++ '(' :: (inside ++ [')']))).bind fun length =>
        countTo? ['1'] .lessOrEqual length (.up 1)).or
      ((callInside? "seq(".toList (name ++ '(' :: (inside ++ [')']))).bind fun arguments =>
        steppedCount? (((Text.arguments arguments).map Prod.snd).map argumentValue)) := by
  have whole := ((Text.unsplit_of_isPlain (by decide : ':' ∈ separators) plain).append
    unsplit.enclosed).splitOutside
  rw [sequenceTextCount?, whole]
  simp only [List.map_map]
  rfl

/-- An argument that gives the value of an expression. -/
def Gives (valueOf : Text → Int) (argument text : Text) : Prop :=
  ∃ label value, Text.isIdentifier label = true ∧ Labelled label argument text ∧
    Denotes valueOf text value

/-- What a call states is what the expressions state that its arguments give. -/
theorem sequenceTextCount?_seq {arguments texts : List Text} {inside : Text}
    (lists : ListsArguments arguments inside)
    (give : List.Forall₂ (Gives valueOf) arguments texts) :
    sequenceTextCount? ("seq(".toList ++ (inside ++ [')'])) =
      steppedCount? (texts.map Text.trim) := by
  have whole : ∀ argument ∈ arguments, (∀ separator ∈ separators, Text.Unsplit separator argument) ∧
      Text.trim argument ≠ [] := by
    clear lists
    induction give with
    | nil => simp
    | cons gives _ inductionHypothesis =>
        obtain ⟨label, value, isName, labelled, denotes⟩ := gives
        rw [List.forall_mem_cons]
        exact ⟨⟨fun _ separates => labelled.unsplit isName denotes separates,
          (labelled.argumentValue_trim isName denotes).2⟩, inductionHypothesis⟩
  have values : (arguments.map Text.trim).map argumentValue = texts.map Text.trim := by
    clear lists whole
    induction give with
    | nil => rfl
    | cons gives _ inductionHypothesis =>
        obtain ⟨label, value, isName, labelled, denotes⟩ := gives
        rw [List.map_cons, List.map_cons, List.map_cons, inductionHypothesis,
          (labelled.argumentValue_trim isName denotes).1]
  have unsplit := lists.unsplit_colon
    fun argument member => (whole argument member).1 ':' (by decide)
  have stated :=
    sequenceTextCount?_call (by decide +kernel : "seq".toList.all isPlain = true) unsplit
  have opened : "seq".toList ++ '(' :: (inside ++ [')']) = "seq(".toList ++ (inside ++ [')']) := rfl
  have notLength : callInside? "seq_len(".toList ("seq(".toList ++ (inside ++ [')'])) = none := rfl
  rw [opened, callInside?_call, notLength] at stated
  rw [stated, Option.bind_none, Option.none_or, Option.bind_some,
    lists.map_snd_arguments fun argument member =>
      ⟨(whole argument member).1 ',' (by decide), (whole argument member).2⟩,
    values]

/-- A written sequence states the count that its texts state. -/
theorem Sequence.IsWritten.sequenceTextCount?_eq (isWritten : sequence.IsWritten text)
    (denote : ∀ text ∈ sequence.texts, ∃ value, Denotes valueOf text value) :
    sequenceTextCount? text = sequence.count? := by
  have colon : ':' ∈ separators := by decide
  cases isWritten with
  | @colon first last isFirst isLast =>
      obtain ⟨low, denotesFirst⟩ := denote first (by simp [texts])
      obtain ⟨high, denotesLast⟩ := denote last (by simp [texts])
      obtain ⟨count, counted⟩ := exists_sequenceCount? first last
      rw [sequenceTextCount?, (denotesFirst.unsplit colon).splitOutside_append rfl,
        (denotesLast.unsplit colon).splitOutside]
      simp only [counted, Sequence.count?, Option.some_or]
  | @length length =>
      obtain ⟨number, denotes⟩ := denote length (by simp [texts])
      have inside := callInside?_call "seq_len(".toList length
      have stated := sequenceTextCount?_call
        (by decide +kernel : "seq_len".toList.all isPlain = true) (denotes.unsplit colon)
      have opened : "seq_len".toList ++ '(' :: (length ++ [')']) =
          "seq_len(".toList ++ (length ++ [')']) := rfl
      have notEnds : callInside? "seq(".toList ("seq_len(".toList ++ (length ++ [')'])) = none :=
        rfl
      rw [opened, inside, notEnds] at stated
      rw [stated, Option.bind_some, Option.bind_none, Option.or_none]
      rfl
  | @call start stop first last isFirst isLast =>
      obtain ⟨low, denotesFirst⟩ := denote first (by simp [texts])
      obtain ⟨high, denotesLast⟩ := denote last (by simp [texts])
      have give : List.Forall₂ (Gives valueOf) [start, stop] [first, last] :=
        .cons ⟨_, _, by decide +kernel, isFirst, denotesFirst⟩
          (.cons ⟨_, _, by decide +kernel, isLast, denotesLast⟩ .nil)
      rw [sequenceTextCount?_seq (.next .last) give]
      exact sequenceCount?_trim first last
  | @callBy start stop move first last step isFirst isLast isStep =>
      obtain ⟨low, denotesFirst⟩ := denote first (by simp [texts])
      obtain ⟨high, denotesLast⟩ := denote last (by simp [texts])
      obtain ⟨stride, denotesStep⟩ := denote step (by simp [texts])
      have give : List.Forall₂ (Gives valueOf) [start, stop, move] [first, last, step] :=
        .cons ⟨_, _, by decide +kernel, isFirst, denotesFirst⟩
          (.cons ⟨_, _, by decide +kernel, isLast, denotesLast⟩
            (.cons ⟨_, _, by decide +kernel, isStep, denotesStep⟩ .nil))
      rw [sequenceTextCount?_seq (.next (.next .last)) give]
      simp only [List.map_cons, List.map_nil, Sequence.count?, steppedCount?, List.take,
        countTo?_trim]

end Reading

/-! ## Counts of sequences -/

/-- Whether a text denotes the same whatever values names have. -/
def IsConstant (text : Text) : Prop :=
  ∃ value, ∀ valueOf, Denotes valueOf text value

theorem Linear.isConstant_iff {text : Text} {linear : Linear} (read : ofText? text = some linear) :
    IsConstant text ↔ linear.name? = none := by
  constructor
  · rintro ⟨value, denotes⟩
    cases named : linear.name? with
    | none => rfl
    | some name =>
        -- The name with two values shows that the expression depends on it.
        have zero := (denotes_iff read value).mp (denotes fun _ => 0)
        have one := (denotes_iff read value).mp (denotes fun _ => 1)
        simp only [valueAt, named] at zero one
        omega
  · intro noName
    refine ⟨linear.constant, fun valueOf => (denotes_iff read _).mpr ?_⟩
    simp only [valueAt, noName]

section Counts

variable {valueOf : Text → Int} {first last : Text} {low high value : Int} {count : Count}

/-- A counter takes as many values as are counted. -/
theorem takes_iff_iterations {comparison : Comparison} {step : Step}
    (denotesFirst : Denotes valueOf first low) (denotesLast : Denotes valueOf last high)
    (counted : countTo? first comparison last step = some count)
    (ordered : comparison ≠ .notEqual)
    (known : count.trip.bound.HasValue valueOf value) (fits : count.trip.Fits valueOf)
    (taken : Nat) :
    Takes (fun counter => comparison.Holds counter high) step.move low taken ↔
      taken = count.trip.iterations value := by
  obtain ⟨begins, ends, uniqueFirst, uniqueLast, makes⟩ := makes_of_countTo? counted known fits
  rw [(uniqueFirst low).mp denotesFirst, (uniqueLast high).mp denotesLast]
  exact makes.inFront (Or.inl ordered) taken

/-- A count between two ends runs the one way or the other. -/
theorem sequenceCount?_cases (counted : sequenceCount? first last = some count) :
    (count.direction = .ascending ∧ countTo? first .lessOrEqual last (.up 1) = some count) ∨
      (count.direction = .descending ∧
        countTo? first .greaterOrEqual last (.down 1) = some count) := by
  have upwards : ∀ {count}, countTo? first .lessOrEqual last (.up 1) = some count →
      count.direction = .ascending := by
    rintro _ ⟨⟩
    rfl
  have downwards : ∀ {count}, countTo? first .greaterOrEqual last (.down 1) = some count →
      count.direction = .descending := by
    rintro _ ⟨⟩
    rfl
  unfold sequenceCount? at counted
  dsimp only at counted
  split at counted
  · split at counted
    · exact Or.inl ⟨upwards counted, counted⟩
    · exact Or.inr ⟨downwards counted, counted⟩
  · exact Or.inr ⟨downwards counted, counted⟩
  · exact Or.inl ⟨upwards counted, counted⟩

/-- Both ends of a known count are linear forms, and the one it starts counting at is a number. -/
theorem exists_linear_of_sequenceCount? (counted : sequenceCount? first last = some count)
    (known : count.trip.bound.HasValue valueOf value) (fits : count.trip.Fits valueOf) :
    ∃ begins ends, Linear.ofText? first = some begins ∧ Linear.ofText? last = some ends ∧
      (begins.name? = none ∨ ends.name? = none) := by
  rcases sequenceCount?_cases counted with ⟨_, counted⟩ | ⟨_, counted⟩
  · have trip : count.trip = tripBetween first last 1 1 := trip_of_countTo? counted
    rw [trip] at known fits
    obtain ⟨number, ends, readFirst, readLast, _⟩ := value_tripBetween known fits
    exact ⟨_, ends, readFirst, readLast, Or.inl rfl⟩
  · have trip : count.trip = tripBetween last first 1 1 := trip_of_countTo? counted
    rw [trip] at known fits
    obtain ⟨number, begins, readLast, readFirst, _⟩ := value_tripBetween known fits
    exact ⟨begins, _, readFirst, readLast, Or.inr rfl⟩

/-- Between two ends a count runs down from an end that is not constant, and from a greater number
to a smaller one. -/
theorem direction_sequenceCount? (denotesFirst : Denotes valueOf first low)
    (denotesLast : Denotes valueOf last high) (counted : sequenceCount? first last = some count)
    (known : count.trip.bound.HasValue valueOf value) (fits : count.trip.Fits valueOf) :
    count.direction = .descending ↔ ¬ IsConstant first ∨ IsConstant last ∧ high < low := by
  obtain ⟨⟨firstName?, begins⟩, ⟨lastName?, ends⟩, readFirst, readLast, nearNumber⟩ :=
    exists_linear_of_sequenceCount? counted known fits
  rw [Linear.isConstant_iff readFirst, Linear.isConstant_iff readLast,
    (Linear.denotes_iff readFirst low).mp denotesFirst,
    (Linear.denotes_iff readLast high).mp denotesLast]
  cases firstName? with
  | some name =>
      simp only [sequenceCount?, readFirst, readLast] at counted
      cases counted
      simp
  | none =>
      cases lastName? with
      | some name =>
          simp only [sequenceCount?, readFirst, readLast] at counted
          cases counted
          simp
      | none =>
          simp only [sequenceCount?, readFirst, readLast] at counted
          split at counted
          · cases counted
            simp; omega
          · cases counted
            simp; omega

/-- Between two ends as many values are counted as there are in the direction of the count. -/
theorem iterations_sequenceCount? (denotesFirst : Denotes valueOf first low)
    (denotesLast : Denotes valueOf last high) (counted : sequenceCount? first last = some count)
    (known : count.trip.bound.HasValue valueOf value) (fits : count.trip.Fits valueOf) :
    count.trip.iterations value =
      match count.direction with
      | .ascending => (high - low + 1).toNat
      | .descending => (low - high + 1).toNat := by
  rcases sequenceCount?_cases counted with ⟨ascends, counted⟩ | ⟨descends, counted⟩
  · have holds : ∀ index : Nat, Comparison.lessOrEqual.Holds (low + index * (Step.up 1).move) high ↔
        index < (high - low + 1).toNat := by
      intro index
      simp only [Comparison.Holds, Step.move]
      omega
    rw [ascends]
    exact ((takes_iff_iterations denotesFirst denotesLast counted (by decide) known fits _).mp
      ((takes_iff_eq holds).mpr rfl)).symm
  · have holds : ∀ index : Nat,
        Comparison.greaterOrEqual.Holds (low + index * (Step.down 1).move) high ↔
          index < (low - high + 1).toNat := by
      intro index
      simp only [Comparison.Holds, Step.move]
      omega
    rw [descends]
    exact ((takes_iff_iterations denotesFirst denotesLast counted (by decide) known fits _).mp
      ((takes_iff_eq holds).mpr rfl)).symm

/-- Between two ends there are as many values as whole numbers from the one to the other. -/
theorem Progression.length_ends {values : List Int} (ordered : low ≤ high) :
    (Progression (· ≤ high) 1 low values → values.length = (high - low).natAbs + 1) ∧
      (Progression (low ≤ ·) (-1) high values → values.length = (low - high).natAbs + 1) := by
  constructor
  · intro progression
    have holds : ∀ index : Nat, low + index * 1 ≤ high ↔ index < (high - low).natAbs + 1 := by
      intro index
      omega
    exact (takes_iff_eq holds).mp progression.takes
  · intro progression
    have holds : ∀ index : Nat, low ≤ high + index * -1 ↔ index < (low - high).natAbs + 1 := by
      intro index
      omega
    exact (takes_iff_eq holds).mp progression.takes

/-- A number that an expression is read as is what the expression denotes. -/
theorem Denotes.eq_of_signed? {text : Text} {number : Int} (denotes : Denotes valueOf text value)
    (read : Text.signed? text = some number) : number = value := by
  have noSpace : unspaced text = text := by
    refine List.filter_eq_self.mpr fun letter member => decide_eq_true_iff.mpr ?_
    rintro rfl
    rcases digit_or_sign_of_signed? read _ member with digit | same | same
    · cases digit
    · cases same
    · cases same
  exact denotes.eq_of_unspaced (noSpace.symm ▸ read)

/-- A count by a step is that of a counter that moves by the step while it is within the end. -/
theorem countTo?_of_steppedCount? {step : Text} {stride : Int}
    (denotesStep : Denotes valueOf step stride)
    (counted : steppedCount? [first, last, Text.trim step] = some count) :
    if 0 < stride then countTo? first .lessOrEqual last (.up stride.natAbs) = some count
    else countTo? first .greaterOrEqual last (.down stride.natAbs) = some count := by
  obtain ⟨number, read, counted⟩ := Option.bind_eq_some_iff.mp counted
  have same := denotesStep.trim.1.eq_of_signed? read
  subst same
  split at counted
  · rename_i positive
    rwa [if_pos positive]
  · rename_i negative
    rwa [if_neg negative]

theorem direction_of_countTo? {start limit : Text} {amount : Nat} :
    (countTo? start .lessOrEqual limit (.up amount) = some count → count.direction = .ascending) ∧
      (countTo? start .greaterOrEqual limit (.down amount) = some count →
        count.direction = .descending) := by
  constructor
  all_goals
    intro counted
    cases amount <;> cases counted
    rfl

end Counts

section Sequences

variable {valueOf : Text → Int} {sequence : Sequence} {values : List Int} {value : Int}
  {count : Count}

/-- Up to a length and by a step all values are counted, in the direction of the vector. -/
theorem Sequence.Builds.iterations_eq (builds : sequence.Builds valueOf values)
    (counted : sequence.count? = some count)
    (known : count.trip.bound.HasValue valueOf value) (fits : count.trip.Fits valueOf)
    (noEnds : ∀ first last, sequence ≠ .ends first last) :
    count.trip.iterations value = values.length ∧ count.direction.Orders values := by
  cases builds with
  | rising | falling => exact absurd rfl (noEnds _ _)
  | upTo denotesLength _ progression =>
      have one : Denotes valueOf ['1'] 1 := @Denotes.number valueOf ['1'] 1 rfl
      rw [Sequence.count?] at counted
      rw [direction_of_countTo?.1 counted]
      exact ⟨((takes_iff_iterations one denotesLength counted (by decide) known fits _).mp
        progression.takes).symm, progression.orders Int.one_pos⟩
  | upwards denotesFirst denotesLast denotesStep positive _ progression =>
      have counted := countTo?_of_steppedCount? denotesStep counted
      rw [if_pos positive] at counted
      have move : (Step.up (Int.natAbs _)).move = _ := Int.natAbs_of_nonneg (Int.le_of_lt positive)
      have taken := progression.takes
      rw [direction_of_countTo?.1 counted]
      rw [← move] at taken
      exact ⟨((takes_iff_iterations denotesFirst denotesLast counted (by decide) known fits _).mp
        taken).symm, progression.orders positive⟩
  | downwards denotesFirst denotesLast denotesStep negative _ progression =>
      have counted := countTo?_of_steppedCount? denotesStep counted
      rw [if_neg (Int.lt_asymm negative)] at counted
      have positive := Int.ofNat_natAbs_of_nonpos (Int.le_of_lt negative)
      have move : (Step.down (Int.natAbs _)).move = _ :=
        (congrArg Neg.neg positive).trans (Int.neg_neg _)
      have taken := progression.takes
      rw [direction_of_countTo?.2 counted]
      rw [← move] at taken
      exact ⟨((takes_iff_iterations denotesFirst denotesLast counted (by decide) known fits _).mp
        taken).symm, progression.orders negative⟩
  | still _ _ denotesStep =>
      have counted := countTo?_of_steppedCount? denotesStep counted
      rw [if_neg (Int.lt_irrefl 0)] at counted
      cases counted

/-- A vector between two ends has as many elements as there are whole numbers between these. -/
theorem Sequence.Builds.length_ends {first last : Text} {low high : Int}
    (builds : (Sequence.ends first last).Builds valueOf values)
    (uniqueFirst : ∀ other, Denotes valueOf first other → other = low)
    (uniqueLast : ∀ other, Denotes valueOf last other → other = high) :
    values.length = (high - low).natAbs + 1 ∧
      (if low ≤ high then Direction.ascending else .descending).Orders values := by
  cases builds with
  | rising denotesFirst denotesLast ordered progression =>
      cases uniqueFirst _ denotesFirst
      cases uniqueLast _ denotesLast
      rw [if_pos ordered]
      exact ⟨(Progression.length_ends ordered).1 progression, progression.orders Int.one_pos⟩
  | falling denotesFirst denotesLast ordered progression =>
      cases uniqueFirst _ denotesFirst
      cases uniqueLast _ denotesLast
      rw [if_neg (Int.not_le.mpr ordered)]
      exact ⟨(Progression.length_ends (Int.le_of_lt ordered)).2 progression,
        progression.orders (by decide : (-1 : Int) < 0)⟩

/-- Between two ends the values are counted just if the vector runs as the count does. -/
theorem iterations_ends_iff {first last : Text} {low high : Int}
    (builds : (Sequence.ends first last).Builds valueOf values)
    (denotesFirst : Denotes valueOf first low) (denotesLast : Denotes valueOf last high)
    (counted : sequenceCount? first last = some count)
    (known : count.trip.bound.HasValue valueOf value) (fits : count.trip.Fits valueOf) :
    values.length = (high - low).natAbs + 1 ∧
      (if low ≤ high then Direction.ascending else .descending).Orders values ∧
      (count.trip.iterations value = values.length ↔ count.direction.Orders values) := by
  obtain ⟨begins, ends, readFirst, readLast, _⟩ :=
    exists_linear_of_sequenceCount? counted known fits
  have unique : ∀ {text : Text} {linear : Linear} {value : Int}, Linear.ofText? text = some linear →
      Denotes valueOf text value → ∀ other, Denotes valueOf text other → other = value := by
    intro text linear value read denotes other denotesOther
    rw [(Linear.denotes_iff read value).mp denotes, (Linear.denotes_iff read other).mp denotesOther]
  obtain ⟨length, runs⟩ := builds.length_ends (unique readFirst denotesFirst)
    (unique readLast denotesLast)
  refine ⟨length, runs, ?_⟩
  rw [Direction.orders_iff runs, length,
    iterations_sequenceCount? denotesFirst denotesLast counted known fits]
  cases count.direction
  all_goals
    dsimp only
    split
    all_goals
      simp only [reduceCtorEq, false_or, true_or, iff_true]
      omega

/-- The count of a written sequence is the number of elements of its vector just if this runs in the
direction of the count.  It always does up to a length, by a step and between two numbers.  Between
two ends the vector has as many elements as there are whole numbers from the one to the other, and
the count runs down from an end that is not constant and from a greater number to a smaller one. -/
theorem iterations_of_written {text : Text} (isWritten : sequence.IsWritten text)
    (builds : sequence.Builds valueOf values) (counted : sequenceTextCount? text = some count)
    (known : count.trip.bound.HasValue valueOf value) (fits : count.trip.Fits valueOf) :
    (count.trip.iterations value = values.length ↔ count.direction.Orders values) ∧
      ((∀ first last, sequence = .ends first last → IsConstant first ∧ IsConstant last) →
        count.direction.Orders values) ∧
      ∀ first last low high, sequence = .ends first last → Denotes valueOf first low →
        Denotes valueOf last high →
        values.length = (high - low).natAbs + 1 ∧
          (count.direction = .descending ↔ ¬ IsConstant first ∨ IsConstant last ∧ high < low) := by
  rw [isWritten.sequenceTextCount?_eq builds.denote] at counted
  cases sequence with
  | upTo length =>
      obtain ⟨equal, runs⟩ := builds.iterations_eq counted known fits (by simp)
      exact ⟨iff_of_true equal runs, fun _ => runs, by simp⟩
  | steps first last step =>
      obtain ⟨equal, runs⟩ := builds.iterations_eq counted known fits (by simp)
      exact ⟨iff_of_true equal runs, fun _ => runs, by simp⟩
  | ends first last =>
      obtain ⟨low, denotesFirst⟩ := builds.denote first (by simp [Sequence.texts])
      obtain ⟨high, denotesLast⟩ := builds.denote last (by simp [Sequence.texts])
      obtain ⟨_, runs, equal⟩ :=
        iterations_ends_iff builds denotesFirst denotesLast counted known fits
      refine ⟨equal, fun constant => ?_, ?_⟩
      · obtain ⟨constantFirst, constantLast⟩ := constant first last rfl
        have descends : count.direction = .descending ↔ high < low := by
          rw [direction_sequenceCount? denotesFirst denotesLast counted known fits]
          simp [constantFirst, constantLast]
        refine (Direction.orders_iff runs).mpr (Or.inl ?_)
        split
        · rename_i ordered
          cases runsDown : count.direction with
          | ascending => rfl
          | descending => exact absurd (descends.mp runsDown) (Int.not_lt.mpr ordered)
        · rename_i reversed
          exact descends.mpr (Int.not_le.mp reversed)
      · rintro _ _ low high ⟨rfl, rfl⟩ denotesFirst denotesLast
        exact ⟨(iterations_ends_iff builds denotesFirst denotesLast counted known fits).1,
          direction_sequenceCount? denotesFirst denotesLast counted known fits⟩

end Sequences

/-- From ten for `n` down to one by threes there are four values, which the count says as well. -/
theorem iterations_of_written_ten :
    ∃ count, sequenceTextCount? "seq(n, 1, by = -3)".toList = some count ∧
      count.trip.iterations 10 = [10, 7, 4, (1 : Int)].length := by
  let valueOf : Text → Int := fun _ => 10
  have isName : Denotes valueOf ['n'] 10 :=
    @Denotes.name valueOf [] ['n'] (by decide) (by decide +kernel)
  have isOne : Denotes valueOf [' ', '1'] 1 :=
    @Denotes.padded valueOf [' '] ['1'] [] 1 rfl rfl (@Denotes.number valueOf ['1'] 1 rfl)
  have isStep : Denotes valueOf [' ', '-', '3'] (-3) :=
    @Denotes.padded valueOf [' '] ['-', '3'] [] (-3) rfl rfl
      (.signed (@SignedNumber.minus [] ['3'] 3 rfl rfl))
  have isWritten : (Sequence.steps ['n'] [' ', '1'] [' ', '-', '3']).IsWritten
      "seq(n, 1, by = -3)".toList :=
    .callBy .bare .bare (@Labelled.named _ [' '] [' '] _ rfl rfl)
  have builds : (Sequence.steps ['n'] [' ', '1'] [' ', '-', '3']).Builds valueOf [10, 7, 4, 1] :=
    .downwards isName isOne isStep (by decide) (by decide)
      (.next (by decide) (.next (by decide) (.next (by decide) (.next (by decide)
        (.done (by decide))))))
  have counted : sequenceTextCount? "seq(n, 1, by = -3)".toList =
      some ⟨⟨.name ['n'], 0, 3⟩, .descending⟩ := by decide +kernel
  have known : (Bound.name ['n']).HasValue valueOf 10 := rfl
  have fits : (Trip.mk (.name ['n']) 0 3).Fits valueOf := by
    intro name _
    decide
  obtain ⟨equal, runs, _⟩ := iterations_of_written isWritten builds counted known fits
  exact ⟨_, counted, equal.mpr (runs (by simp))⟩

/-- From 1 to a name with the value nought the vector runs down through two elements, but none is
counted, since the count runs up.  And a difference behind the colon is taken from the vector that
the colon has built, while the count takes it from the end. -/
theorem iterations_ne_length :
    (∃ values count, (Sequence.ends ['1'] ['n']).IsWritten "1:n".toList ∧
      (Sequence.ends ['1'] ['n']).Builds (fun _ => 0) values ∧
      sequenceTextCount? "1:n".toList = some count ∧
      count.trip.bound.HasValue (fun _ => 0) 0 ∧ count.trip.Fits (fun _ => 0) ∧
      values.length = 2 ∧ count.trip.iterations 0 = 0) ∧
    ∃ values count, (Sequence.ends ['1'] ['n']).Builds (fun _ => 3) values ∧
      sequenceTextCount? "1:n-1".toList = some count ∧
      count.trip.bound.HasValue (fun _ => 3) 3 ∧ count.trip.Fits (fun _ => 3) ∧
      (values.map (· - 1)).length = 3 ∧ count.trip.iterations 3 = 2 := by
  have isName : ∀ valueOf, Denotes valueOf ['n'] (valueOf ['n']) := fun valueOf =>
    @Denotes.name valueOf [] ['n'] (by decide) (by decide +kernel)
  have isOne : ∀ valueOf, Denotes valueOf ['1'] 1 :=
    fun valueOf => @Denotes.number valueOf ['1'] 1 rfl
  constructor
  · have isWritten : (Sequence.ends ['1'] ['n']).IsWritten "1:n".toList :=
      .colon (@Operand.number ['1'] 1 rfl) (@Operand.name [] ['n'] (by decide) (by decide +kernel))
    exact ⟨[1, 0], ⟨⟨.name ['n'], 0, 1⟩, .ascending⟩, isWritten,
      .falling (isOne _) (isName _) (by decide)
        (.next (by decide) (.next (by decide) (.done (by decide)))),
      by decide +kernel, rfl, fun _ _ => (by decide : (0 : Int) + 0 ≤ maxSigned), rfl, by decide⟩
  · exact ⟨[1, 2, 3], ⟨⟨.name ['n'], -1, 1⟩, .ascending⟩,
      .rising (isOne _) (isName _) (by decide)
        (.next (by decide) (.next (by decide) (.next (by decide) (.done (by decide))))),
      by decide +kernel, rfl, fun _ _ => (by decide : (3 : Int) + -1 ≤ maxSigned), rfl, by decide⟩

end InputDemand
