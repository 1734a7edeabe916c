import InputDemand.Proofs.Loop.Passes

/-!
# Counts are exact

A range takes its start, stop and step from the arguments of a call; its values stand at the indices
that its step reaches in front of its stop.  The arguments are told apart by the commas outside all
brackets; an expression has none, and a last comma adds no argument.  So the count of a range is the
number of its values, as the count of a header is that of the passes of its counter.
-/

namespace InputDemand

/-! ## Commas and brackets -/

/-- The characters at which arguments and the ends of a sequence are split. -/
def separators : List Char :=
  [',', ':']

/-- Whether a letter is neither a bracket nor a separator. -/
def isPlain (letter : Char) : Bool :=
  isUnbracketed letter && !separators.contains letter

def brackets : List Char :=
  ['(', '[', '\x7b', ')', ']', '\x7d']

theorem unmarked_of {keep : Char → Bool} {marks : List Char}
    (free : (brackets ++ marks).any keep = false) {letter : Char} (kept : keep letter = true) :
    isUnbracketed letter = true ∧ letter ∉ marks := by
  have unlisted : letter ∉ brackets ++ marks := fun member =>
    List.any_eq_false.mp free letter member kept
  rw [List.mem_append, not_or] at unlisted
  refine ⟨?_, unlisted.2⟩
  simpa [isUnbracketed, opens, closes, brackets, and_assoc] using unlisted.1

theorem isPlain_of {keep : Char → Bool} (free : (brackets ++ separators).any keep = false)
    {letter : Char} (kept : keep letter = true) : isPlain letter = true := by
  obtain ⟨unbracketed, unlisted⟩ := unmarked_of free kept
  simp [isPlain, unbracketed, unlisted]

theorem isUnbracketed_of_isPlain {separator : Char} (separates : separator ∈ separators)
    {letter : Char} (plain : isPlain letter = true) :
    (isUnbracketed letter && letter != separator) = true := by
  obtain ⟨unbracketed, other⟩ := Bool.and_eq_true_iff.mp plain
  rw [unbracketed, Bool.true_and, bne_iff_ne]
  rintro rfl
  rw [List.contains_iff_mem.mpr separates] at other
  cases other

theorem isPlain_of_isWord {letter : Char} (word : isWord letter = true) : isPlain letter = true :=
  isPlain_of (by decide +kernel) word

theorem all_isPlain_of_blank {gap : Text} (blankGap : Text.blank gap = true) :
    gap.all isPlain = true :=
  List.all_eq_true.mpr fun letter member =>
    isPlain_of (by decide +kernel) (List.all_eq_true.mp blankGap letter member)

theorem all_isPlain_of_digits {digits : Text} {amount : Nat}
    (read : Text.digitsValue? digits = some amount) : digits.all isPlain = true :=
  List.all_eq_true.mpr fun letter member =>
    isPlain_of_isWord
      (Text.isWord_of_isDigit ((Text.all_isDigit_of_digitsValue? read).2 letter member))

theorem all_isPlain_of_identifier {sigil name : Text} (isSigil : sigil ∈ sigils)
    (isName : Text.isIdentifier name = true) : (sigil ++ name).all isPlain = true := by
  have plainSigil : sigil.all isPlain = true := by
    simp only [sigils, List.mem_cons, List.not_mem_nil, or_false] at isSigil
    rcases isSigil with rfl | rfl <;> decide
  have plainName : name.all isPlain = true := List.all_eq_true.mpr fun letter member =>
    isPlain_of_isWord (List.all_eq_true.mp (Text.all_isWord_of_isIdentifier isName) letter member)
  rw [List.all_append, plainSigil, plainName]
  rfl

theorem SignedNumber.all_isPlain {text : Text} {value : Int} (number : SignedNumber text value) :
    text.all isPlain = true := by
  obtain ⟨sign, gap, digits, amount, rfl, isSign, blankGap, read, _⟩ := number.exists_parts
  rw [List.all_cons, List.all_append, all_isPlain_of_blank blankGap, all_isPlain_of_digits read]
  rcases isSign with rfl | rfl <;> decide

/-- A text at which a separator splits nothing, wherever it stands. -/
def Text.Unsplit (separator : Char) (text : Text) : Prop :=
  ∀ (depth : Int) (begun rest : Text), splitOutsideFrom separator depth begun (text ++ rest) =
    splitOutsideFrom separator depth (text.reverse ++ begun) rest

section Unsplit

variable {separator : Char}

theorem Text.unsplit_of_isPlain {text : Text} (separates : separator ∈ separators)
    (plain : text.all isPlain = true) : Unsplit separator text := fun _ _ _ =>
  splitOutsideFrom_append (List.all_eq_true.mpr fun letter member =>
    isUnbracketed_of_isPlain separates (List.all_eq_true.mp plain letter member))

theorem Text.Unsplit.append {front back : Text} (unsplitFront : Unsplit separator front)
    (unsplitBack : Unsplit separator back) : Unsplit separator (front ++ back) := by
  intro depth begun rest
  rw [List.append_assoc, unsplitFront, unsplitBack, List.reverse_append, List.append_assoc]

theorem Text.Unsplit.enclosed {text : Text} (unsplit : Unsplit separator text) :
    Unsplit separator ('(' :: (text ++ [')'])) := by
  intro depth begun rest
  have opened : ∀ rest, splitOutsideFrom separator depth begun ('(' :: rest) =
      splitOutsideFrom separator (depth + 1) ('(' :: begun) rest := fun _ => rfl
  have closed : ∀ begun rest, splitOutsideFrom separator (depth + 1) begun (')' :: rest) =
      splitOutsideFrom separator depth (')' :: begun) rest := by
    intro begun rest
    rw [splitOutsideFrom, if_neg (by decide), if_pos (by decide), Int.add_sub_cancel]
  rw [List.cons_append, opened, List.append_assoc, unsplit, List.singleton_append, closed]
  simp

/-- Expressions have no separator outside their brackets, and close these. -/
theorem Denotes.unsplit {valueOf : Text → Int} {text : Text} {value : Int}
    (denotes : Denotes valueOf text value) (separates : separator ∈ separators) :
    Text.Unsplit separator text := by
  have ofPlain : ∀ {text : Text}, text.all isPlain = true → Text.Unsplit separator text :=
    Text.unsplit_of_isPlain separates
  induction denotes with
  | number read => exact ofPlain (all_isPlain_of_digits read)
  | signed number => exact ofPlain number.all_isPlain
  | name isSigil isName => exact ofPlain (all_isPlain_of_identifier isSigil isName)
  | moved isSigil isName blankGap number =>
      refine ofPlain ?_
      rw [← List.append_assoc, List.all_append, all_isPlain_of_identifier isSigil isName,
        List.all_append, all_isPlain_of_blank blankGap]
      exact number.all_isPlain
  | sum read blankGap blankBehind isSigil isName =>
      refine ofPlain ?_
      rw [List.all_append, List.all_append, List.all_cons, List.all_append,
        all_isPlain_of_digits read, all_isPlain_of_blank blankGap,
        all_isPlain_of_blank blankBehind]
      exact all_isPlain_of_identifier isSigil isName
  | padded blankFront blankBack _ inductionHypothesis =>
      exact (ofPlain (all_isPlain_of_blank blankFront)).append
        (inductionHypothesis.append (ofPlain (all_isPlain_of_blank blankBack)))
  | enclosed _ inductionHypothesis => exact inductionHypothesis.enclosed

end Unsplit

/-! ## Argument lists -/

/-- The text of an argument list: its arguments with commas between them, and perhaps a last comma
behind them. -/
inductive ListsArguments : List Text → Text → Prop
  | last {argument : Text} : ListsArguments [argument] argument
  | closed {argument gap : Text} : Text.blank gap = true →
      ListsArguments [argument] (argument ++ ',' :: gap)
  | next {argument rest : Text} {arguments : List Text} : ListsArguments arguments rest →
      ListsArguments (argument :: arguments) (argument ++ ',' :: rest)

namespace Text

variable {separator : Char} {text : Text}

/-- A text that a separator does not split where it stands outside all brackets. -/
def Undivided (separator : Char) (text : Text) : Prop :=
  ∀ (begun rest : Text), splitOutsideFrom separator 0 begun (text ++ rest) =
    splitOutsideFrom separator 0 (text.reverse ++ begun) rest

theorem Undivided.splitOutside (undivided : Undivided separator text) :
    splitOutside separator text = [text] := by
  have whole := undivided [] []
  rw [List.append_nil] at whole
  rw [Text.splitOutside, whole, splitOutsideFrom, List.append_nil, List.reverse_reverse]

theorem Undivided.splitOutside_append (undivided : Undivided separator text)
    (noBracket : isUnbracketed separator = true) (rest : Text) :
    Text.splitOutside separator (text ++ separator :: rest) =
      text :: Text.splitOutside separator rest := by
  rw [isUnbracketed, Bool.and_eq_true, Bool.not_eq_true', Bool.not_eq_true'] at noBracket
  rw [Text.splitOutside, undivided, splitOutsideFrom, noBracket.1, noBracket.2]
  simp [Text.splitOutside]

theorem Unsplit.undivided (unsplit : Unsplit separator text) : Undivided separator text :=
  unsplit 0

theorem Unsplit.splitOutside (unsplit : Unsplit separator text) :
    splitOutside separator text = [text] :=
  unsplit.undivided.splitOutside

theorem Unsplit.splitOutside_append (unsplit : Unsplit separator text)
    (noBracket : isUnbracketed separator = true) (rest : Text) :
    Text.splitOutside separator (text ++ separator :: rest) =
      text :: Text.splitOutside separator rest :=
  unsplit.undivided.splitOutside_append noBracket rest

/-- The texts of the arguments: the trimmed pieces with something in them. -/
theorem map_snd_arguments (text : Text) : (arguments text).map Prod.snd =
    ((Text.splitOutside ',' text).map trim).filter fun argument => !argument.isEmpty := by
  rw [arguments]
  generalize Text.splitOutside ',' text = pieces
  generalize 0 = start
  induction pieces generalizing start with
  | nil => rfl
  | cons piece pieces inductionHypothesis =>
      have others := inductionHypothesis (start + size piece + 1)
      rw [located, List.filterMap_cons, List.map_cons, List.filter_cons, ← others]
      cases visible : (trim piece).isEmpty <;> simp [visible]

theorem trim_of_blank (isBlank : blank text = true) : trim text = [] := by
  have trimmed := trim_padded isBlank (rfl : blank [] = true) []
  rwa [List.append_nil, List.append_nil] at trimmed

end Text

/-- The arguments of a list are its pieces without the blanks around them, if no comma outside all
brackets splits these and none is blank. -/
theorem ListsArguments.map_snd_arguments_of_undivided {arguments : List Text} {text : Text}
    (lists : ListsArguments arguments text)
    (whole : ∀ argument ∈ arguments, Text.Undivided ',' argument ∧ Text.trim argument ≠ []) :
    (Text.arguments text).map Prod.snd = arguments.map Text.trim := by
  have comma : ',' ∈ separators := List.mem_cons_self
  have visible : ∀ {argument : Text}, Text.trim argument ≠ [] →
      (!(Text.trim argument).isEmpty) = true := fun notBlank => by
    rw [List.isEmpty_eq_false_iff.mpr notBlank]
    rfl
  rw [Text.map_snd_arguments]
  induction lists with
  | last =>
      obtain ⟨undivided, notBlank⟩ := whole _ List.mem_cons_self
      rw [undivided.splitOutside]
      exact List.filter_cons_of_pos (visible notBlank)
  | closed blankGap =>
      obtain ⟨undivided, notBlank⟩ := whole _ List.mem_cons_self
      rw [undivided.splitOutside_append rfl,
        (Text.unsplit_of_isPlain comma (all_isPlain_of_blank blankGap)).splitOutside, List.map_cons,
        List.map_singleton, Text.trim_of_blank blankGap]
      exact List.filter_cons_of_pos (visible notBlank)
  | next _ inductionHypothesis =>
      obtain ⟨undivided, notBlank⟩ := whole _ List.mem_cons_self
      rw [undivided.splitOutside_append rfl, List.map_cons, List.filter_cons,
        if_pos (visible notBlank), List.map_cons,
        inductionHypothesis fun later member => whole later (List.mem_cons_of_mem _ member)]

theorem ListsArguments.map_snd_arguments {arguments : List Text} {text : Text}
    (lists : ListsArguments arguments text)
    (whole : ∀ argument ∈ arguments, Text.Unsplit ',' argument ∧ Text.trim argument ≠ []) :
    (Text.arguments text).map Prod.snd = arguments.map Text.trim :=
  lists.map_snd_arguments_of_undivided fun argument member =>
    ⟨(whole argument member).1.undivided, (whole argument member).2⟩

/-! ## Steps -/

section Steps

variable {valueOf : Text → Int} {text : Text} {value number : Int}

theorem digit_or_sign_of_signed? (read : Text.signed? text = some value) :
    ∀ letter ∈ text, letter.isDigit = true ∨ letter = '+' ∨ letter = '-' := by
  have digits : ∀ {text : Text}, (Text.digitsValue? text).bind
      (fun amount => signed? (amount : Int)) = some value ∨
      (Text.digitsValue? text).bind (fun amount => signed? (-(amount : Int))) = some value →
      ∀ letter ∈ text, letter.isDigit = true := by
    rintro text (read | read)
    all_goals
      obtain ⟨amount, digits, _⟩ := Option.bind_eq_some_iff.mp read
      exact (Text.all_isDigit_of_digitsValue? digits).2
  intro letter member
  unfold Text.signed? at read
  split at read
  · rcases List.mem_cons.mp member with rfl | behind
    · exact Or.inr (Or.inr rfl)
    · exact Or.inl (digits (Or.inr read) letter behind)
  · rcases List.mem_cons.mp member with rfl | behind
    · exact Or.inr (Or.inl rfl)
    · exact Or.inl (digits (Or.inl read) letter behind)
  · exact Or.inl (digits (Or.inl read) letter member)

/-- The text without its spaces. -/
def unspaced (text : Text) : Text :=
  text.filter (· ≠ ' ')

/-- Blanks in a number that is read without its spaces are spaces. -/
theorem unspaced_eq_nil {gap : Text} (blankGap : Text.blank gap = true)
    (plain : ∀ letter ∈ unspaced gap, letter.isDigit = true ∨ letter = '+' ∨ letter = '-') :
    unspaced gap = [] := by
  refine List.eq_nil_iff_forall_not_mem.mpr fun letter member => ?_
  have blankLetter : isBlank letter = true :=
    List.all_eq_true.mp blankGap letter (List.mem_of_mem_filter member)
  rcases plain letter member with digit | rfl | rfl
  · rw [not_isBlank_of_isWord (Text.isWord_of_isDigit digit)] at blankLetter
    cases blankLetter
  · cases blankLetter
  · cases blankLetter

theorem unspaced_digits {digits : Text} {amount : Nat}
    (read : Text.digitsValue? digits = some amount) : unspaced digits = digits := by
  refine List.filter_eq_self.mpr fun letter member => ?_
  have digit := (Text.all_isDigit_of_digitsValue? read).2 letter member
  rw [decide_eq_true_eq]
  rintro rfl
  cases digit

/-- No text with a name in it is read as a number. -/
theorem not_signed?_of_identifier {sigil name : Text} (isSigil : sigil ∈ sigils)
    (isName : Text.isIdentifier name = true) (inside : sigil ++ name ⊆ text) :
    Text.signed? (unspaced text) ≠ some number := by
  intro read
  obtain ⟨first, more, split, noDigit, noSign, _, visible⟩ :=
    Text.exists_cons_of_identifier isSigil isName
  have member : first ∈ unspaced text := by
    refine List.mem_filter.mpr ⟨inside (by rw [split]; exact List.mem_cons_self), ?_⟩
    rw [decide_eq_true_eq]
    rintro rfl
    cases visible
  rcases digit_or_sign_of_signed? read first member with digit | rfl | rfl
  · rw [noDigit] at digit
    cases digit
  · exact noSign (by decide)
  · exact noSign (by decide)

/-- A number that an expression is without its spaces is what the expression denotes. -/
theorem Denotes.eq_of_unspaced (denotes : Denotes valueOf text value)
    (read : Text.signed? (unspaced text) = some number) : number = value := by
  -- Names and parentheses hold a letter that no number has, so only numbers are left.
  induction denotes with
  | number digitsRead =>
      rw [unspaced_digits digitsRead, Text.signed?_of_digitsValue? digitsRead] at read
      exact eq_of_signed? read
  | signed signedNumber =>
      obtain ⟨sign, gap, digits, amount, rfl, isSign, blankGap, digitsRead, rfl⟩ :=
        signedNumber.exists_parts
      have kept : unspaced (sign :: (gap ++ digits)) = sign :: (unspaced gap ++ digits) := by
        have visible : decide (sign ≠ ' ') = true := by
          rcases isSign with rfl | rfl <;> decide
        rw [unspaced, List.filter_cons, if_pos visible, List.filter_append]
        exact congrArg (fun rest => sign :: (unspaced gap ++ rest)) (unspaced_digits digitsRead)
      have nothing : unspaced gap = [] := unspaced_eq_nil blankGap fun letter member =>
        digit_or_sign_of_signed? read letter (by rw [kept]; simp [member])
      rw [kept, nothing, List.nil_append] at read
      have again := SignedNumber.of_signed? isSign read
      rcases isSign with rfl | rfl
      · exact SignedNumber.unique (@SignedNumber.plus [] _ _ rfl digitsRead) again
      · exact SignedNumber.unique (@SignedNumber.minus [] _ _ rfl digitsRead) again
  | name isSigil isName =>
      exact absurd read (not_signed?_of_identifier isSigil isName (List.Subset.refl _))
  | @moved sigil name gap text _ isSigil isName _ _ =>
      refine absurd read (not_signed?_of_identifier isSigil isName ?_)
      rw [← List.append_assoc]
      exact List.subset_append_left _ _
  | @sum digits gap behind sigil name _ _ _ _ isSigil isName =>
      refine absurd read (not_signed?_of_identifier isSigil isName ?_)
      refine List.subset_append_of_subset_right _ (List.subset_append_of_subset_right _ ?_)
      exact List.subset_cons_of_subset _ (List.subset_append_right _ _)
  | @padded front text back _ blankFront blankBack _ inductionHypothesis =>
      have kept : unspaced (front ++ (text ++ back)) =
          unspaced front ++ (unspaced text ++ unspaced back) := by
        rw [unspaced, List.filter_append, List.filter_append]
        rfl
      have plain := digit_or_sign_of_signed? read
      rw [kept] at plain read
      have noFront : unspaced front = [] :=
        unspaced_eq_nil blankFront fun letter member => plain letter (by simp [member])
      have noBack : unspaced back = [] :=
        unspaced_eq_nil blankBack fun letter member => plain letter (by simp [member])
      rw [noFront, noBack, List.nil_append, List.append_nil] at read
      exact inductionHypothesis read
  | @enclosed text _ _ _ =>
      have member : '(' ∈ unspaced ('(' :: (text ++ [')'])) := by simp [unspaced]
      rcases digit_or_sign_of_signed? read '(' member with digit | same | same
      · cases digit
      · cases same
      · cases same

end Steps

/-! ## Ranges -/

/-- The start, stop and step that the arguments of a range give. -/
inductive IsRange (valueOf : Text → Int) : List Text → Int → Int → Int → Prop
  | stop {stop : Text} {last : Int} : Denotes valueOf stop last → IsRange valueOf [stop] 0 last 1
  | start {start stop : Text} {first last : Int} : Denotes valueOf start first →
      Denotes valueOf stop last → IsRange valueOf [start, stop] first last 1
  | step {start stop step : Text} {first last stride : Int} : Denotes valueOf start first →
      Denotes valueOf stop last → Denotes valueOf step stride →
      IsRange valueOf [start, stop, step] first last stride

/-- Whether a range has a value at an index: for a positive step as long as that stays below the
stop, for any other as long as it stays above. -/
def InRange (first last stride : Int) (index : Nat) : Prop :=
  if 0 < stride then first + stride * index < last else last < first + stride * index

section Ranges

variable {valueOf : Text → Int} {value : Int} {count : Count}

/-- A counter between two ends that is compared by its order passes as long as so many strides stay
below the distance of what the two ends denote. -/
theorem lt_iterations_of_denotes {start stop : Text} {comparison : Comparison} {step : Step}
    {first last : Int} (denotesStart : Denotes valueOf start first)
    (denotesStop : Denotes valueOf stop last)
    (counted : countTo? (Text.trim start) comparison (Text.trim stop) step = some count)
    (known : count.trip.bound.HasValue valueOf value) (fits : count.trip.Fits valueOf)
    (index : Nat) :
    index < count.trip.iterations value ↔
      step.amount * (index : Int) < step.distance first last + comparison.extra := by
  obtain ⟨begins, ends, uniqueStart, uniqueStop, passes⟩ :=
    lt_iterations_of_countTo? counted known fits
  rw [passes, (uniqueStart first).mp denotesStart.trim.1, (uniqueStop last).mp denotesStop.trim.1,
    Int.mul_comm]

theorem Denotes.whole {text : Text} (denotes : Denotes valueOf text value) :
    Text.Unsplit ',' text ∧ Text.trim text ≠ [] :=
  ⟨denotes.unsplit List.mem_cons_self, denotes.trim.2⟩

theorem IsRange.whole {arguments : List Text} {first last stride : Int}
    (isRange : IsRange valueOf arguments first last stride) :
    ∀ argument ∈ arguments, Text.Unsplit ',' argument ∧ Text.trim argument ≠ [] := by
  cases isRange with
  | stop denotesStop => simpa using denotesStop.whole
  | start denotesStart denotesStop => simpa using ⟨denotesStart.whole, denotesStop.whole⟩
  | step denotesStart denotesStop denotesStep =>
      simpa using ⟨denotesStart.whole, denotesStop.whole, denotesStep.whole⟩

/-- The passes of a range are the indices at which it has a value. -/
theorem lt_iterations_of_rangeCount? {arguments : List Text} {text : Text}
    {first last stride : Int} (isRange : IsRange valueOf arguments first last stride)
    (lists : ListsArguments arguments text) (counted : rangeCount? text = some count)
    (known : count.trip.bound.HasValue valueOf value) (fits : count.trip.Fits valueOf)
    (index : Nat) :
    index < count.trip.iterations value ↔ InRange first last stride index := by
  rw [rangeCount?, lists.map_snd_arguments isRange.whole] at counted
  have upwards : ∀ {start stop : Text} {amount : Nat} {first : Int},
      Denotes valueOf start first → Denotes valueOf stop last →
      countTo? (Text.trim start) .less (Text.trim stop) (.up amount) = some count →
      (index < count.trip.iterations value ↔ first + amount * index < last) := by
    intro start stop amount first denotesStart denotesStop counted
    rw [lt_iterations_of_denotes denotesStart denotesStop counted known fits]
    simp only [Step.amount, Step.distance, Comparison.extra]
    omega
  unfold InRange
  cases isRange with
  | stop denotesStop =>
      have zero : Denotes valueOf ['0'] 0 := @Denotes.number valueOf ['0'] 0 rfl
      exact upwards zero denotesStop counted
  | start denotesStart denotesStop => exact upwards denotesStart denotesStop counted
  | step denotesStart denotesStop denotesStep =>
      obtain ⟨number, read, counted⟩ := Option.bind_eq_some_iff.mp counted
      have same := denotesStep.trim.1.eq_of_unspaced read
      subst same
      split at counted
      · rename_i positive
        rw [if_pos positive, upwards denotesStart denotesStop counted,
          Int.natAbs_of_nonneg (Int.le_of_lt positive)]
      · rename_i negative
        rw [if_neg negative, lt_iterations_of_denotes denotesStart denotesStop counted known fits]
        simp only [Step.amount, Step.distance, Comparison.extra,
          Int.ofNat_natAbs_of_nonpos (Int.not_lt.mp negative), Int.neg_mul]
        omega

end Ranges

/-! ## Headers -/

/-- What a counter does that moves by a step and is compared with a limit: it takes so many values
in front of the limit, and makes as many passes, or one, if the test stands behind the body.  An
inequality ends only if the steps meet the limit. -/
structure Comparison.Makes (comparison : Comparison) (step : Step) (first last : Int)
    (passes : Nat) : Prop where
  inFront : comparison ≠ .notEqual ∨
      0 ≤ step.distance first last ∧ (step.amount : Int) ∣ step.distance first last →
    ∀ taken, Takes (fun counter => comparison.Holds counter last) step.move first taken ↔
      taken = passes
  behind : comparison ≠ .notEqual →
    ∀ taken, TakesBodyFirst (fun counter => comparison.Holds counter last) step.move first taken ↔
      taken = max 1 passes

/-- Steps that divide a distance meet its end. -/
theorem Step.exists_meets {step : Step} {first last : Int} (moves : step.amount ≠ 0)
    (ahead : 0 ≤ step.distance first last)
    (divides : (step.amount : Int) ∣ step.distance first last) :
    ∃ rounds : Nat, step.distance first last = rounds * step.amount ∧
      last = first + rounds * step.move := by
  obtain ⟨quotient, product⟩ := divides
  have positive : (0 : Int) < step.amount := by omega
  have natural : 0 ≤ quotient := by
    rw [product] at ahead
    exact Int.nonneg_of_mul_nonneg_right ahead positive
  obtain ⟨rounds, rfl⟩ := Int.eq_ofNat_of_zero_le natural
  rw [Int.mul_comm] at product
  refine ⟨rounds, product, ?_⟩
  cases step with
  | up amount =>
      simp only [Step.distance, Step.amount, Step.move] at product ⊢
      omega
  | down amount =>
      simp only [Step.distance, Step.amount, Step.move, Int.mul_neg] at product ⊢
      omega

/-- The count of a header is the number of passes of its counter. -/
theorem makes_of_countTo? {start limit : Text} {comparison : Comparison} {step : Step}
    {count : Count} {valueOf : Text → Int} {value : Int}
    (counted : countTo? start comparison limit step = some count)
    (known : count.trip.bound.HasValue valueOf value) (fits : count.trip.Fits valueOf) :
    ∃ first last, (∀ other, Denotes valueOf start other ↔ other = first) ∧
      (∀ other, Denotes valueOf limit other ↔ other = last) ∧
      comparison.Makes step first last (count.trip.iterations value) := by
  obtain ⟨agrees, moves⟩ := agrees_of_countTo? counted
  obtain ⟨first, last, uniqueStart, uniqueLimit, passes⟩ :=
    lt_iterations_of_countTo? counted known fits
  have holds : comparison ≠ .notEqual → ∀ index : Nat,
      comparison.Holds (first + index * step.move) last ↔ index < count.trip.iterations value :=
    fun ordered index =>
      (Comparison.holds_iff agrees ordered first last index).trans (passes index).symm
  refine ⟨first, last, uniqueStart, uniqueLimit, ⟨fun ends taken => ?_, fun ordered taken => ?_⟩⟩
  · by_cases ordered : comparison = .notEqual
    · subst ordered
      obtain ⟨ahead, divides⟩ := ends.resolve_left fun ordered => ordered rfl
      obtain ⟨rounds, distance, meets⟩ := step.exists_meets moves ahead divides
      have same : count.trip.iterations value = rounds := by
        refine eq_of_forall_lt_iff fun index => (passes index).trans ?_
        rw [distance, Comparison.extra, Int.add_zero, ← Int.natCast_mul, ← Int.natCast_mul,
          Int.ofNat_lt]
        exact Nat.mul_lt_mul_right (Nat.pos_of_ne_zero moves)
      have changes : step.move ≠ 0 := by
        cases step <;> simp only [Step.move, Step.amount] at moves ⊢ <;> omega
      rw [same]
      exact takes_ne_iff changes meets
    · exact takes_iff_eq (holds ordered)
  · exact takesBodyFirst_iff_eq (holds ordered)

/-- Counts are exact.  A header states none just if its step does not agree with the comparison or is
zero; otherwise, once the bound has a value and the sum fits, its texts denote two integers and the
count is the number of passes of a counter from the one to the other.  Likewise the count of a range
is the number of its values. -/
theorem counts_exact :
    (∀ start comparison limit step,
      countTo? start comparison limit step = none ↔ ¬ comparison.Agrees step ∨ step.amount = 0) ∧
    (∀ start comparison limit step count valueOf value,
      countTo? start comparison limit step = some count →
      count.trip.bound.HasValue valueOf value → count.trip.Fits valueOf →
      ∃ first last, (∀ other, Denotes valueOf start other ↔ other = first) ∧
        (∀ other, Denotes valueOf limit other ↔ other = last) ∧
        comparison.Makes step first last (count.trip.iterations value)) ∧
    (∀ arguments text first last stride count valueOf value,
      IsRange valueOf arguments first last stride → ListsArguments arguments text →
      rangeCount? text = some count →
      count.trip.bound.HasValue valueOf value → count.trip.Fits valueOf →
      ∀ index : Nat, index < count.trip.iterations value ↔ InRange first last stride index) :=
  ⟨fun _ _ _ _ => countTo?_eq_none_iff,
    fun _ _ _ _ _ _ _ counted known fits => makes_of_countTo? counted known fits,
    fun _ _ _ _ _ _ _ _ isRange lists counted known fits =>
      lt_iterations_of_rangeCount? isRange lists counted known fits⟩

/-- With ten for `n`, a counter from 1 up to `n` by threes takes what is counted, and so does a
range from `n` down to 1. -/
theorem counts_exact_ten :
    (∃ count, countTo? ['1'] .lessOrEqual ['n'] (.up 3) = some count ∧
      count.trip.iterations 10 = 4 ∧
      Comparison.lessOrEqual.Makes (.up 3) 1 10 (count.trip.iterations 10)) ∧
    ∃ count, rangeCount? "n, 1,-3,".toList = some count ∧ count.trip.iterations 10 = 3 ∧
      ∀ index : Nat, index < count.trip.iterations 10 ↔ InRange 10 1 (-3) index := by
  let valueOf : Text → Int := fun _ => 10
  have isName : Denotes valueOf ['n'] 10 :=
    @Denotes.name valueOf [] ['n'] (by decide) (by decide +kernel)
  have isOne : Denotes valueOf ['1'] 1 := @Denotes.number valueOf ['1'] 1 rfl
  have isStep : Denotes valueOf ['-', '3'] (-3) := .signed (@SignedNumber.minus [] ['3'] 3 rfl rfl)
  have isPadded : Denotes valueOf [' ', '1'] 1 :=
    @Denotes.padded valueOf [' '] ['1'] [] 1 rfl rfl isOne
  obtain ⟨_, headers, ranges⟩ := counts_exact
  constructor
  · have counted : countTo? ['1'] .lessOrEqual ['n'] (.up 3) =
        some ⟨⟨.name ['n'], 0, 3⟩, .ascending⟩ := by decide +kernel
    obtain ⟨first, last, uniqueFirst, uniqueLast, makes⟩ :=
      headers _ _ _ _ _ valueOf 10 counted rfl (by intro name _; decide)
    rw [← (uniqueFirst 1).mp isOne, ← (uniqueLast 10).mp isName] at makes
    exact ⟨_, counted, by decide, makes⟩
  · have counted : rangeCount? "n, 1,-3,".toList = some ⟨⟨.name ['n'], -1, 3⟩, .descending⟩ := by
      decide +kernel
    have lists : ListsArguments [['n'], [' ', '1'], ['-', '3']] "n, 1,-3,".toList :=
      .next (.next (.closed rfl))
    exact ⟨_, counted, by decide, ranges _ _ 10 1 (-3) _ valueOf 10 (.step isName isPadded isStep)
      lists counted rfl (by intro name _; decide)⟩

end InputDemand
