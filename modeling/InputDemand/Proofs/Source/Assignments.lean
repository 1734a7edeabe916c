import InputDemand.Proofs.Pattern.Hunt
import InputDemand.Proofs.Pattern.Ways
import InputDemand.Proofs.Text.Numerals
import InputDemand.Source.Assignment

/-!
# Where assignments match

An assignment of a number matches at the start of its line and behind punctuation, in one way only,
and the match takes the punctuation behind the number.  It matches at no other place of its line.
-/

namespace InputDemand

open Pattern

/-- A whole number of 64 bits that is assigned to a name. -/
structure Assignment where
  name : Text
  value : Int
  isName : Text.isName name = true
  fits : fitsSigned value = true

namespace Assignment

def text (assignment : Assignment) : Text :=
  assignment.name ++ ([' ', '=', ' '] ++ Text.ofInt assignment.value)

/-- What an assignment states behind some text. -/
def binding (assignment : Assignment) (front : Text) : Binding :=
  ⟨assignment.name, assignment.value, Text.size front⟩

end Assignment

/-! ## The pattern of assignments -/

def assignmentEnd : Pattern :=
  many indent ++ (optional "\r" ++ oneOf [";", ",", ")", lineEnd])

/-- An assignment from behind its sign on. -/
def assignedNumber : Pattern :=
  many indent ++ (keep 2 wholeNumber ++ assignmentEnd)

/-- An assignment from behind its name on. -/
def assigningSign : Pattern :=
  many indent ++ (optional (":" ++ many indent ++ wordRun ++ many indent) ++
    (oneOf [":=", "=", "<-"] ++ assignedNumber))

/-- An assignment from its name on. -/
def assignedName : Pattern :=
  optional "$" ++ (keep 1 Pattern.name ++ assigningSign)

/-- A word in front of the name, such as a type. -/
def typeWord : Pattern :=
  some1 (letter fun found => isWord found || "<>[]".toList.contains found) ++ some1 indent

theorem ways_numberAssignment : ways numberAssignment = ways
    (orElse lineStart (among ";\x7b(,") ++ (many indent ++ (many typeWord ++ assignedName))) := by
  simp only [numberAssignment, ways_append_append, typeWord, assignedName, assigningSign,
    assignedNumber, assignmentEnd]

def Piece.between (before text rest : Text) : Piece :=
  ⟨⟨before, text ++ rest⟩, ⟨text.reverse ++ before, rest⟩⟩

theorem Piece.text_between (before text rest : Text) : (between before text rest).text = text :=
  Cursor.textUpTo_of_rest rfl

section Ways

variable {before rest : Text} {kept : List (Nat × Piece)} {sign : Char} {name : Text}

/-- Patterns that do not match in front of a letter of a name. -/
def nameless : List Pattern :=
  ["-", "$", indent, some1 indent, among ";\x7b(,", assigningSign, assignmentEnd]

theorem refuses_of_nameless {pattern : Pattern} (listed : pattern ∈ nameless) (next : Char)
    (named : isNameLetter next = true) : pattern.refuses next = true := by
  have passed : passedByNames (fun next => nameless.all fun pattern => pattern.refuses next) =
      true := by decide +kernel
  exact List.all_eq_true.mp (test_of_isNameLetter passed named) pattern listed

/-- The character behind an assignment. -/
def isEnd (sign : Char) : Bool :=
  sign = ';' || sign = ','

theorem ways_assignmentEnd (ends : isEnd sign = true) :
    ways assignmentEnd ⟨⟨before, sign :: rest⟩, kept⟩ = [⟨⟨sign :: before, rest⟩, kept⟩] := by
  have isSign : sign = ';' ∨ sign = ',' := by
    simpa [isEnd] using ends
  have noGap : ways indent ⟨⟨before, sign :: rest⟩, kept⟩ = [] := by
    apply ways_of_refuses rfl
    rcases isSign with rfl | rfl <;> rfl
  have noReturn : ways "\r" ⟨⟨before, sign :: rest⟩, kept⟩ = [] := by
    apply ways_of_refuses rfl
    rcases isSign with rfl | rfl <;> rfl
  rw [assignmentEnd, ways_append_of_singleton (ways_many_of_nil noGap),
    ways_append_of_singleton (ways_optional_of_nil noReturn)]
  rcases isSign with rfl | rfl <;> rfl

theorem exists_digits (number : Nat) : ∃ first run, Text.ofNat number = first :: run ∧
    isDecimal first = true ∧ isNameLetter first = true ∧
      run.all isNameLetter = true ∧ run.all isDecimal = true := by
  obtain ⟨first, run, digits⟩ := List.exists_cons_of_ne_nil (@Nat.toDigits_ne_nil number 10)
  have isDigit : ∀ letter ∈ first :: run, letter.isDigit = true := by
    intro letter member
    exact Text.isDigit_of_mem_ofNat (digits ▸ member)
  have named : (first :: run).all isNameLetter = true :=
    List.all_eq_true.mpr fun letter member => Text.isNameLetter_of_isDigit (isDigit letter member)
  have decimal : (first :: run).all isDecimal = true := by
    refine List.all_eq_true.mpr fun letter member => ?_
    rw [isDecimal, isDigit letter member, Bool.true_or]
  rw [List.all_cons, Bool.and_eq_true] at named decimal
  exact ⟨first, run, digits, decimal.1, named.1, named.2, decimal.2⟩

theorem settles_wholeNumber (value : Int) (stops : isDecimal sign = false) :
    Settles isNameLetter wholeNumber ⟨⟨before, Text.ofInt value ++ sign :: rest⟩, kept⟩
      ⟨⟨(Text.ofInt value).reverse ++ before, sign :: rest⟩, kept⟩ := by
  have stop : (sign :: rest).head?.all (fun next => !isDecimal next) = true := by
    rw [List.head?_cons, Option.all_some, stops]
    rfl
  cases value with
  | ofNat number =>
      obtain ⟨first, run, digits, decimal, named, inner, accepted⟩ := exists_digits number
      rw [Text.ofInt, digits]
      have noMinus : ways "-" ⟨⟨before, first :: run ++ sign :: rest⟩, kept⟩ = [] :=
        ways_of_refuses rfl (refuses_of_nameless (by simp [nameless]) first named)
      apply Settles.of_append (ways_optional_of_nil noMinus)
      exact Settles.of_run decimal inner accepted stop
  | negSucc number =>
      obtain ⟨first, run, digits, decimal, named, inner, accepted⟩ := exists_digits (number + 1)
      rw [Text.ofInt, digits, List.reverse_cons, List.append_assoc]
      have minus : ways "-" ⟨⟨before, '-' :: (first :: run ++ sign :: rest)⟩, kept⟩ =
          [⟨⟨'-' :: before, first :: run ++ sign :: rest⟩, kept⟩] := rfl
      have noDigit : ways digitRun ⟨⟨before, '-' :: (first :: run ++ sign :: rest)⟩, kept⟩ = [] :=
        ways_of_refuses rfl rfl
      apply Settles.of_optional minus noDigit
      exact Settles.of_run decimal inner accepted stop

/-- A space is skipped in front of what neither begins with one nor takes one. -/
theorem ways_indent_append {next : Pattern} {more : Text} (refuses : next.refuses ' ' = true)
    (stops : more.head?.all (fun letter => !isIndent letter) = true) :
    ways (many indent ++ next) ⟨⟨before, ' ' :: more⟩, kept⟩ =
      ways next ⟨⟨' ' :: before, more⟩, kept⟩ := by
  have settles : Settles (· == ' ') (many indent) ⟨⟨before, [' '] ++ more⟩, kept⟩
      ⟨⟨[' '].reverse ++ before, more⟩, kept⟩ := Settles.of_many rfl rfl stops
  apply settles.ways_append
  intro letter blank
  rw [eq_of_beq blank]
  exact refuses

theorem isIndent_of_isNameLetter {letter : Char} (named : isNameLetter letter = true) :
    isIndent letter = false := by
  rw [← Bool.not_eq_true, isIndent, Bool.or_eq_true, decide_eq_true_eq, decide_eq_true_eq]
  rintro (rfl | rfl) <;> cases named

theorem ofInt_stops (value : Int) (more : Text) :
    (Text.ofInt value ++ more).head?.all (fun letter => !isIndent letter) = true := by
  cases value with
  | ofNat number =>
      obtain ⟨first, run, digits, _, named, _⟩ := exists_digits number
      rw [Text.ofInt, digits, List.cons_append, List.head?_cons, Option.all_some,
        isIndent_of_isNameLetter named]
      rfl
  | negSucc number => rfl

theorem isDecimal_of_isEnd (ends : isEnd sign = true) : isDecimal sign = false := by
  have isSign : sign = ';' ∨ sign = ',' := by
    simpa [isEnd] using ends
  rcases isSign with rfl | rfl <;> rfl

theorem ways_assignedNumber (value : Int) (ends : isEnd sign = true) :
    ways assignedNumber ⟨⟨before, ' ' :: (Text.ofInt value ++ sign :: rest)⟩, kept⟩ =
      [⟨⟨sign :: ((Text.ofInt value).reverse ++ ' ' :: before), rest⟩,
        (2, .between (' ' :: before) (Text.ofInt value) (sign :: rest)) :: kept⟩] := by
  rw [assignedNumber, ways_indent_append rfl (ofInt_stops value _),
    (settles_wholeNumber value (isDecimal_of_isEnd ends)).of_keep.ways_append
      (refuses_of_nameless (by simp [nameless])),
    ways_assignmentEnd ends]
  rfl

theorem ways_assigningSign (value : Int) (ends : isEnd sign = true) :
    ways assigningSign ⟨⟨before, ' ' :: '=' :: ' ' :: (Text.ofInt value ++ sign :: rest)⟩, kept⟩ =
      [⟨⟨sign :: ((Text.ofInt value).reverse ++ ' ' :: '=' :: ' ' :: before), rest⟩,
        (2, .between (' ' :: '=' :: ' ' :: before) (Text.ofInt value) (sign :: rest)) ::
          kept⟩] := by
  have noColon : ways (":" ++ many indent ++ wordRun ++ many indent)
      ⟨⟨' ' :: before, '=' :: ' ' :: (Text.ofInt value ++ sign :: rest)⟩, kept⟩ = [] :=
    ways_of_refuses rfl rfl
  have equals : ways (oneOf [":=", "=", "<-"]) ⟨⟨' ' :: before,
      '=' :: ' ' :: (Text.ofInt value ++ sign :: rest)⟩, kept⟩ =
        [⟨⟨'=' :: ' ' :: before, ' ' :: (Text.ofInt value ++ sign :: rest)⟩, kept⟩] := rfl
  rw [assigningSign, ways_indent_append rfl rfl,
    ways_append_of_singleton (ways_optional_of_nil noColon), ways_append_of_singleton equals,
    ways_assignedNumber value ends]

theorem settles_run {starts accepts : Char → Bool} {first : Char} {run more : Text}
    (isName : Text.isName (first :: run) = true) (starting : starts first = true)
    (accepted : run.all accepts = true)
    (stops : more.head?.all (fun letter => !accepts letter) = true) :
    Settles isNameLetter (letter starts ++ many (letter accepts))
      ⟨⟨before, first :: run ++ more⟩, kept⟩ ⟨⟨(first :: run).reverse ++ before, more⟩, kept⟩ := by
  have named := Text.all_isNameLetter isName
  rw [List.all_cons, Bool.and_eq_true] at named
  exact Settles.of_run starting named.2 accepted stops

theorem ways_assignedName {more : Text} (isName : Text.isName name = true)
    (stops : more.head?.all (fun letter => !isWord letter) = true) :
    ways assignedName ⟨⟨before, name ++ more⟩, kept⟩ =
      ways assigningSign
        ⟨⟨name.reverse ++ before, more⟩, (1, .between before name more) :: kept⟩ := by
  have words := Text.isWord_of_isName isName
  obtain ⟨first, run, rfl, starts, named⟩ := Text.exists_cons_of_isName isName
  rw [List.all_cons, Bool.and_eq_true] at words
  have noDollar : ways "$" ⟨⟨before, first :: run ++ more⟩, kept⟩ = [] :=
    ways_of_refuses rfl (refuses_of_nameless (by simp [nameless]) first named)
  rw [assignedName, ways_append_of_singleton (ways_optional_of_nil noDollar)]
  have settles : Settles isNameLetter Pattern.name ⟨⟨before, first :: run ++ more⟩, kept⟩
      ⟨⟨(first :: run).reverse ++ before, more⟩, kept⟩ := settles_run isName starts words.2 stops
  exact settles.of_keep.ways_append (refuses_of_nameless (by simp [nameless]))

/-- The name is no type in front of a name, since what follows it is none. -/
theorem ways_many_typeWord {more : Text} (isName : Text.isName name = true) :
    ways (many typeWord ++ assignedName) ⟨⟨before, name ++ ' ' :: '=' :: more⟩, kept⟩ =
      ways assignedName ⟨⟨before, name ++ ' ' :: '=' :: more⟩, kept⟩ := by
  have once : ways typeWord ⟨⟨before, name ++ ' ' :: '=' :: more⟩, kept⟩ =
      [⟨⟨' ' :: (name.reverse ++ before), '=' :: more⟩, kept⟩] := by
    have accepted : name.all (fun found => isWord found || "<>[]".toList.contains found) = true :=
      List.all_eq_true.mpr fun letter member =>
        Bool.or_eq_true_iff.mpr
          (Or.inl (List.all_eq_true.mp (Text.isWord_of_isName isName) letter member))
    obtain ⟨first, run, rfl, _⟩ := Text.exists_cons_of_isName isName
    rw [List.all_cons, Bool.and_eq_true] at accepted
    have settles : Settles isNameLetter
        (some1 (letter fun found => isWord found || "<>[]".toList.contains found))
        ⟨⟨before, first :: run ++ ' ' :: '=' :: more⟩, kept⟩
        ⟨⟨(first :: run).reverse ++ before, ' ' :: '=' :: more⟩, kept⟩ :=
      settles_run isName accepted.1 accepted.2 rfl
    have noMore : ways indent ⟨⟨' ' :: ((first :: run).reverse ++ before), '=' :: more⟩, kept⟩ =
        [] := ways_of_refuses rfl rfl
    rw [typeWord, settles.ways_append (refuses_of_nameless (by simp [nameless])), some1, indent,
      ways_append_of_singleton (ways_letter rfl _ _ _)]
    exact ways_many_of_nil noMore
  apply ways_many_append_of_once once
  · exact ways_of_refuses rfl rfl
  · exact ways_of_refuses rfl rfl

/-! ## Matches of assignments -/

theorem ways_assignment (assignment : Assignment) (ends : isEnd sign = true) :
    ways (many typeWord ++ assignedName) ⟨⟨before, assignment.text ++ sign :: rest⟩, kept⟩ =
      [⟨⟨sign :: (assignment.text.reverse ++ before), rest⟩,
        (2, .between (' ' :: '=' :: ' ' :: (assignment.name.reverse ++ before))
          (Text.ofInt assignment.value) (sign :: rest)) ::
        (1, .between before assignment.name
          (' ' :: '=' :: ' ' :: (Text.ofInt assignment.value ++ sign :: rest))) :: kept⟩] := by
  simp only [Assignment.text, List.append_assoc, List.cons_append, List.nil_append,
    List.reverse_append, List.reverse_cons]
  rw [ways_many_typeWord assignment.isName, ways_assignedName assignment.isName rfl,
    ways_assigningSign assignment.value ends]

theorem bindingOf?_of_pieces {found : Match} {name number : Piece} {value : Int}
    (named : found.piece? 1 = some name) (numbered : found.piece? 2 = some number)
    (read : Text.signed? number.text = some value) :
    bindingOf? found = some ⟨name.text, value, name.start.offset⟩ := by
  have group : found.group 2 = number.text := by
    rw [Match.group, numbered, Option.map_some, Option.getD_some]
  rw [bindingOf?, named, group, read]
  rfl

theorem ways_opening (here : Progress) : ways (orElse lineStart (among ";\x7b(,")) here =
    (if atBreak here.place.before.head? then [here] else []) ++ ways (among ";\x7b(,") here :=
  rfl

theorem ways_of_nameless {pattern : Pattern} (listed : pattern ∈ nameless)
    (assignment : Assignment) :
    ways pattern ⟨⟨before, assignment.text ++ rest⟩, kept⟩ = [] := by
  obtain ⟨first, run, split, _, named⟩ := Text.exists_cons_of_isName assignment.isName
  rw [Assignment.text, split]
  exact ways_of_refuses rfl (refuses_of_nameless listed first named)

theorem ways_of_break (atBreak : atBreak before.head? = true) (assignment : Assignment) :
    ways numberAssignment ⟨⟨before, assignment.text ++ rest⟩, kept⟩ =
      ways (many typeWord ++ assignedName) ⟨⟨before, assignment.text ++ rest⟩, kept⟩ := by
  have opening : ways (orElse lineStart (among ";\x7b(,"))
      ⟨⟨before, assignment.text ++ rest⟩, kept⟩ =
        [⟨⟨before, assignment.text ++ rest⟩, kept⟩] := by
    rw [ways_opening, if_pos atBreak, ways_of_nameless (by simp [nameless]), List.append_nil]
  rw [ways_numberAssignment, ways_append_of_singleton opening,
    ways_append_of_singleton (ways_many_of_nil (ways_of_nameless (by simp [nameless]) assignment))]

theorem ways_of_sign (inside : atBreak before.head? = false) (ends : isEnd sign = true) :
    ways numberAssignment ⟨⟨before, sign :: rest⟩, kept⟩ =
      ways (many indent ++ (many typeWord ++ assignedName)) ⟨⟨sign :: before, rest⟩, kept⟩ := by
  have isSign : sign = ';' ∨ sign = ',' := by
    simpa [isEnd] using ends
  have taken : ways (among ";\x7b(,") ⟨⟨before, sign :: rest⟩, kept⟩ =
      [⟨⟨sign :: before, rest⟩, kept⟩] := by
    apply ways_letter
    rcases isSign with rfl | rfl <;> rfl
  have opening : ways (orElse lineStart (among ";\x7b(,")) ⟨⟨before, sign :: rest⟩, kept⟩ =
      [⟨⟨sign :: before, rest⟩, kept⟩] := by
    rw [ways_opening, inside, if_neg Bool.false_ne_true, taken, List.nil_append]
  rw [ways_numberAssignment, ways_append_of_singleton opening]

theorem matchAt?_eq_none {place : Cursor} (nothing : ways numberAssignment ⟨place, []⟩ = []) :
    numberAssignment.matchAt? place = none := by
  rw [matchAt?, nothing]
  rfl

theorem matchAt?_of_inside (inside : atBreak before.head? = false)
    (noSign : (among ";\x7b(,").refuses sign = true) :
    numberAssignment.matchAt? ⟨before, sign :: rest⟩ = none := by
  have opening : ways (orElse lineStart (among ";\x7b(,")) ⟨⟨before, sign :: rest⟩, []⟩ = [] := by
    rw [ways_opening, inside, if_neg Bool.false_ne_true, ways_of_refuses rfl noSign,
      List.nil_append]
  apply matchAt?_eq_none
  rw [ways_numberAssignment, ways_append_of_nil opening]

/-- Punctuation at the end of a line or of the text begins no assignment. -/
theorem matchAt?_of_last (inside : atBreak before.head? = false) (ends : isEnd sign = true)
    (last : rest = [] ∨ rest.head? = some '\n') :
    numberAssignment.matchAt? ⟨before, sign :: rest⟩ = none := by
  apply matchAt?_eq_none
  rw [ways_of_sign inside ends]
  rcases last with rfl | feed
  · exact ways_of_takesLetter rfl _ _
  · exact ways_of_refuses feed rfl

/-- A letter inside a line at which no assignment begins. -/
def isInner (letter : Char) : Bool :=
  (among ";\x7b(,").refuses letter && letter ≠ '\n'

theorem hunt_inner {run : Text} (inside : atBreak before.head? = false)
    (inner : run.all isInner = true) :
    Hunt numberAssignment ⟨before, run ++ rest⟩ [] ⟨run.reverse ++ before, rest⟩ := by
  induction run generalizing before with
  | nil => exact .done _
  | cons letter run inductionHypothesis =>
      rw [List.all_cons, Bool.and_eq_true, isInner, Bool.and_eq_true, decide_eq_true_eq] at inner
      obtain ⟨⟨noSign, noFeed⟩, inner⟩ := inner
      have further : atBreak (letter :: before).head? = false := by
        rw [List.head?_cons, atBreak, Option.all_some, beq_eq_false_iff_ne]
        exact noFeed
      rw [List.reverse_cons, List.append_assoc]
      exact .past (matchAt?_of_inside inside noSign) (inductionHypothesis further inner)

end Ways

namespace Assignment

/-- What names and the signs of an assignment pass, its whole text passes. -/
theorem all_text {test : Char → Bool}
    (names : ∀ letter, isNameLetter letter = true → test letter = true)
    (signs : [' ', '=', '-'].all test = true) (assignment : Assignment) :
    assignment.text.all test = true := by
  simp only [List.all_cons, List.all_nil, Bool.and_true, Bool.and_eq_true] at signs
  have digits (number : Nat) : (Text.ofNat number).all test = true := by
    refine List.all_eq_true.mpr fun letter member => ?_
    exact names letter (Text.isNameLetter_of_isDigit (Text.isDigit_of_mem_ofNat member))
  have number : (Text.ofInt assignment.value).all test = true := by
    cases assignment.value with
    | ofNat number => exact digits number
    | negSucc number => rw [Text.ofInt, List.all_cons, digits, signs.2.2, Bool.and_true]
  have named : assignment.name.all test = true :=
    List.all_eq_true.mpr fun letter member =>
      names letter (List.all_eq_true.mp (Text.all_isNameLetter assignment.isName) letter member)
  simp only [text, List.all_append, List.all_cons, List.all_nil, Bool.and_true, number, signs.1,
    signs.2.1, named]

theorem all_isInner_text (assignment : Assignment) : assignment.text.all isInner = true := by
  apply all_text _ rfl
  intro letter named
  rw [isInner, refuses_of_nameless (by simp [nameless]) letter named, Bool.true_and,
    decide_eq_true_eq]
  rintro rfl
  cases named

theorem not_atBreak_text (assignment : Assignment) (front : Text) :
    atBreak (front ++ assignment.text).reverse.head? = false := by
  have visible : assignment.text.reverse ≠ [] := by
    obtain ⟨first, run, split, _⟩ := Text.exists_cons_of_isName assignment.isName
    rw [text, split]
    simp
  obtain ⟨last, more, split⟩ := List.exists_cons_of_ne_nil visible
  have member : last ∈ assignment.text := by
    rw [← List.mem_reverse, split]
    exact List.mem_cons_self
  have inner := List.all_eq_true.mp (all_isInner_text assignment) last member
  rw [isInner, Bool.and_eq_true, decide_eq_true_eq] at inner
  rw [List.reverse_append, split, List.cons_append, List.head?_cons, atBreak, Option.all_some,
    beq_eq_false_iff_ne]
  exact inner.2

theorem stops_text (assignment : Assignment) {more : Text} :
    (assignment.text ++ more).head?.all (fun letter => !isIndent letter) = true := by
  obtain ⟨first, run, split, _, named⟩ := Text.exists_cons_of_isName assignment.isName
  rw [text, split, List.cons_append, List.cons_append, List.head?_cons, Option.all_some,
    isIndent_of_isNameLetter named]
  rfl

/-- A match of an assignment takes the punctuation behind it and states its binding. -/
theorem exists_matchAt? {place : Cursor} {sign : Char} {rest : Text} (assignment : Assignment)
    (front : Text) (ends : isEnd sign = true)
    (leads : ways numberAssignment ⟨place, []⟩ = ways (many typeWord ++ assignedName)
      ⟨⟨front.reverse, assignment.text ++ sign :: rest⟩, []⟩) :
    ∃ found, numberAssignment.matchAt? place = some found ∧
      found.stop = ⟨sign :: (front ++ assignment.text).reverse, rest⟩ ∧
      bindingOf? found = some (assignment.binding front) := by
  rw [ways_assignment assignment ends] at leads
  refine ⟨_, by rw [matchAt?, leads]; rfl, ?_, ?_⟩
  · rw [List.reverse_append]
  · have read : Text.signed? (Piece.between (' ' :: '=' :: ' ' ::
        (assignment.name.reverse ++ front.reverse)) (Text.ofInt assignment.value)
          (sign :: rest)).text = some assignment.value := by
      rw [Piece.text_between, Text.signed?_ofInt assignment.fits]
    rw [bindingOf?_of_pieces rfl rfl read, Piece.text_between, binding, ← Text.size_reverse front]
    rfl

end Assignment

end InputDemand
