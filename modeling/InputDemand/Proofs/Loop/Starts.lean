import InputDemand.Proofs.Loop.Conditions

/-!
# Starts of headers

The first clause of a header assigns a start to the counter.  Words of a type may stand in front of
it, and a type behind a colon.  The counter itself looks like such a word as far as the blanks
behind it, but then no name is left in front of the sign, so it is not taken for one.
-/

namespace InputDemand

open Pattern

/-! ## Words of a type -/

/-- A word of a type with the blanks behind it.  Words behind double colons, arguments in angle
brackets and a mark for a pointer or a reference may follow the word. -/
structure TypeWord where
  base : Text
  scopes : List Text
  arguments? : Option Text
  mark : Text
  gap : Text
  areWords : ∀ word ∈ base :: scopes, word ≠ [] ∧ word.all isWord = true
  closed : ∀ arguments, arguments? = some arguments →
    '>' ∉ arguments ∧ Text.Unsplit ';' arguments
  isMark : mark = [] ∨ mark = ['*'] ∨ mark = ['&']
  isGap : gap ≠ [] ∧ Text.blank gap = true

namespace TypeWord

def scopeText (scopes : List Text) : Text :=
  scopes.flatMap fun scope => ':' :: ':' :: scope

def argumentText : Option Text → Text
  | none => []
  | some arguments => '<' :: (arguments ++ ['>'])

def text (type : TypeWord) : Text :=
  type.base ++ (scopeText type.scopes ++ (argumentText type.arguments? ++ (type.mark ++ type.gap)))

end TypeWord

/-- A word of a type, as the start of a header looks for it. -/
def leadingWord : Pattern :=
  wordRun ++ many ("::" ++ wordRun) ++ optional ("<" ++ many (butNot ">") ++ ">") ++
    optional (among "*&") ++ gap

namespace TypeWord

variable {before rest : Text} {kept : List (Nat × Piece)}

theorem exists_cons (type : TypeWord) :
    ∃ first more, type.text = first :: more ∧ isWord first = true := by
  obtain ⟨nonempty, words⟩ := type.areWords type.base List.mem_cons_self
  obtain ⟨first, more, split⟩ := List.exists_cons_of_ne_nil nonempty
  rw [split] at words
  exact ⟨first, _, by rw [text, split]; rfl, (Bool.and_eq_true_iff.mp words).1⟩

theorem unsplit (type : TypeWord) : Text.Unsplit ';' type.text := by
  have base : Text.Unsplit ';' type.base :=
    Text.unsplit_of (by decide +kernel) (type.areWords type.base List.mem_cons_self).2
  have scopes : (scopeText type.scopes).all (fun letter => isWord letter || letter == ':') =
      true := by
    refine List.all_eq_true.mpr fun letter member => ?_
    obtain ⟨scope, listed, inside⟩ := List.mem_flatMap.mp member
    have words := (type.areWords scope (List.mem_cons_of_mem _ listed)).2
    rcases List.mem_cons.mp inside with rfl | inside
    · exact Bool.or_true _
    · rcases List.mem_cons.mp inside with rfl | inside
      · exact Bool.or_true _
      · rw [List.all_eq_true.mp words letter inside, Bool.true_or]
  have arguments : Text.Unsplit ';' (argumentText type.arguments?) := by
    cases given : type.arguments? with
    | none => exact fun _ _ _ => rfl
    | some arguments =>
        have opening : Text.Unsplit ';' ['<'] := fun _ _ _ => rfl
        have closing : Text.Unsplit ';' ['>'] := fun _ _ _ => rfl
        exact opening.append ((type.closed arguments given).2.append closing)
  have mark : Text.Unsplit ';' type.mark := by
    rcases type.isMark with marked | marked | marked
    all_goals
      rw [marked]
      exact fun _ _ _ => rfl
  exact base.append ((Text.unsplit_of (by decide +kernel) scopes).append (arguments.append
    (mark.append (Text.unsplit_of (by decide +kernel) type.isGap.2))))

theorem exists_gap (type : TypeWord) : ∃ space more, type.gap = space :: more ∧
    isWord space = false ∧ ∀ mark ∈ [':', '<', '*', '&'], space ≠ mark := by
  obtain ⟨nonempty, blankGap⟩ := type.isGap
  obtain ⟨space, more, split⟩ := List.exists_cons_of_ne_nil nonempty
  rw [split] at blankGap
  have blankSpace : isBlank space = true := (Bool.and_eq_true_iff.mp blankGap).1
  have unspelled := not_isSpelling_of_isBlank blankSpace
  rw [isSpelling, Bool.or_eq_false_iff] at unspelled
  exact ⟨space, more, split, unspelled.1, ne_of_any (by decide) blankSpace⟩

theorem all_head?_of_imp {text : Text} {test weaker : Char → Bool}
    (imp : ∀ letter, test letter = true → weaker letter = true)
    (tested : text.head?.all test = true) : text.head?.all weaker = true := by
  cases text with
  | nil => rfl
  | cons letter text => exact imp letter tested

/-- What stands behind the arguments of a word goes on with no word, scope or argument. -/
theorem head?_mark (type : TypeWord) (rest : Text) : (type.mark ++ (type.gap ++ rest)).head?.all
    (fun letter => !isWord letter && letter != ':' && letter != '<') = true := by
  obtain ⟨space, more, split, noWord, others⟩ := type.exists_gap
  rcases type.isMark with marked | marked | marked
  · simp [marked, split, noWord, others]
  · rw [marked]
    exact (by decide +kernel : (!isWord '*' && '*' != ':' && '*' != '<') = true)
  · rw [marked]
    exact (by decide +kernel : (!isWord '&' && '&' != ':' && '&' != '<') = true)

theorem first_mark (type : TypeWord) :
    First (optional (among "*&")) ⟨⟨before, type.mark ++ (type.gap ++ rest)⟩, kept⟩
      ⟨⟨type.mark.reverse ++ before, type.gap ++ rest⟩, kept⟩ := by
  rcases type.isMark with marked | marked | marked
  · obtain ⟨space, more, split, _, others⟩ := type.exists_gap
    rw [marked, split]
    refine First.optional_of_nil (@ways_of_refuses _ space _ rfl ?_)
    simp [refuses, mayStay, mayTake, among, others]
  · rw [marked]
    exact First.optional (First.letter rfl)
  · rw [marked]
    exact First.optional (First.letter rfl)

theorem first_arguments {arguments? : Option Text}
    (closed : ∀ arguments, arguments? = some arguments → '>' ∉ arguments)
    (stops : rest.head?.all (fun letter => letter != '<') = true) :
    First (optional ("<" ++ many (butNot ">") ++ ">"))
      ⟨⟨before, argumentText arguments? ++ rest⟩, kept⟩
      ⟨⟨(argumentText arguments?).reverse ++ before, rest⟩, kept⟩ := by
  cases arguments? with
  | none =>
      have noBracket : ¬ ['<'] <+: rest := by
        rintro ⟨more, rfl⟩
        cases stops
      exact First.optional_of_nil
        (ways_append_of_nil (ways_append_of_nil (ways_word_eq_nil noBracket before kept)))
  | some arguments =>
      have inside : arguments.all (fun letter => !">".toList.contains letter) = true := by
        refine List.all_eq_true.mpr fun letter member => ?_
        have other : letter ≠ '>' := by
          rintro rfl
          exact closed arguments rfl member
        simpa using other
      have taken : First (optional ("<" ++ many (butNot ">") ++ ">"))
          ⟨⟨before, ['<'] ++ (arguments ++ (['>'] ++ rest))⟩, kept⟩ _ :=
        First.optional ((First.word ['<']).append (First.many_run inside rfl) |>.append
          (First.word ['>']))
      simpa [argumentText] using taken

theorem first_scopes {scopes : List Text}
    (areWords : ∀ word ∈ scopes, word ≠ [] ∧ word.all isWord = true)
    (stops : rest.head?.all (fun letter => !isWord letter && letter != ':') = true) :
    First (many ("::" ++ wordRun)) ⟨⟨before, scopeText scopes ++ rest⟩, kept⟩
      ⟨⟨(scopeText scopes).reverse ++ before, rest⟩, kept⟩ := by
  induction scopes generalizing before with
  | nil =>
      have noScope : ¬ [':', ':'] <+: rest := by
        rintro ⟨more, rfl⟩
        exact absurd stops (by simp)
      exact First.many_of_nil (ways_append_of_nil (ways_word_eq_nil noScope before kept))
  | cons scope scopes inductionHypothesis =>
      obtain ⟨nonempty, words⟩ := areWords scope List.mem_cons_self
      have wordStops : (scopeText scopes ++ rest).head?.all (fun letter => !isWord letter) =
          true := by
        cases scopes with
        | nil =>
            cases rest with
            | nil => rfl
            | cons next rest =>
                rw [List.head?_cons, Option.all_some, Bool.and_eq_true] at stops
                exact stops.1
        | cons other scopes => exact (by decide +kernel : (!isWord ':') = true)
      have round : First ("::" ++ wordRun)
          ⟨⟨before, [':', ':'] ++ (scope ++ (scopeText scopes ++ rest))⟩, kept⟩ _ :=
        (First.word [':', ':']).append (First.some1_run nonempty words wordStops)
      have further := @inductionHypothesis (scope.reverse ++ ([':', ':'].reverse ++ before))
        fun word member => areWords word (List.mem_cons_of_mem _ member)
      have whole := First.many_round (shortens_of_takesLetter rfl) round further
      simpa [scopeText] using whole

theorem first (type : TypeWord) (stops : rest.head?.all (fun letter => !isBlank letter) = true) :
    First leadingWord ⟨⟨before, type.text ++ rest⟩, kept⟩
      ⟨⟨type.text.reverse ++ before, rest⟩, kept⟩ := by
  obtain ⟨⟨nonempty, words⟩, scopes⟩ : (type.base ≠ [] ∧ type.base.all isWord = true) ∧
      ∀ word ∈ type.scopes, word ≠ [] ∧ word.all isWord = true :=
    List.forall_mem_cons.mp type.areWords
  have markStops := type.head?_mark rest
  have argumentStops : (argumentText type.arguments? ++ (type.mark ++ (type.gap ++ rest))).head?.all
      (fun letter => !isWord letter && letter != ':') = true := by
    cases type.arguments? with
    | none => exact all_head?_of_imp (by simp +contextual) markStops
    | some arguments => exact (by decide +kernel : (!isWord '<' && '<' != ':') = true)
  have baseStops : (scopeText type.scopes ++
      (argumentText type.arguments? ++ (type.mark ++ (type.gap ++ rest)))).head?.all
      (fun letter => !isWord letter) = true := by
    cases type.scopes with
    | nil => exact all_head?_of_imp (by simp +contextual) argumentStops
    | cons scope scopes => exact (by decide +kernel : (!isWord ':') = true)
  have leads : First leadingWord ⟨⟨before, type.base ++ (scopeText type.scopes ++
      (argumentText type.arguments? ++ (type.mark ++ (type.gap ++ rest))))⟩, kept⟩ _ :=
    First.some1_run nonempty words baseStops |>.append (first_scopes scopes argumentStops) |>.append
      (first_arguments (fun arguments given => (type.closed arguments given).1)
        (all_head?_of_imp (by simp +contextual) markStops)) |>.append
      type.first_mark |>.append (First.some1_run type.isGap.1 type.isGap.2 stops)
  simpa [text] using leads

end TypeWord

/-! ## Signs of assignment -/

/-- The signs that assign a start, perhaps with a word for the type of the counter in front. -/
inductive Assigns : Text → Prop
  | plain {sign : Text} : sign = ['='] ∨ sign = [':', '='] → Assigns sign
  | typed {front word behind sign : Text} : Text.blank front = true → word ≠ [] →
      word.all isWord = true → Text.blank behind = true → sign = ['='] ∨ sign = [':', '='] →
      Assigns (':' :: (front ++ (word ++ (behind ++ sign))))

theorem Assigns.exists_cons {sign : Text} (assigns : Assigns sign) (rest : Text) :
    ∃ mark more, sign ++ rest = mark :: more ∧ (mark = ':' ∨ mark = '=') ∧
      ¬ [':', ':'] <+: sign ++ rest := by
  cases assigns with
  | plain isSign =>
      rcases isSign with rfl | rfl
      · exact ⟨'=', rest, rfl, Or.inr rfl, by simp⟩
      · exact ⟨':', '=' :: rest, rfl, Or.inl rfl, by simp⟩
  | @typed front word behind sign blankFront nonempty words _ _ =>
      refine ⟨':', _, rfl, Or.inl rfl, fun colons => ?_⟩
      have noColon : ∀ letter ∈ front ++ word, letter ≠ ':' := by
        rintro letter member rfl
        rcases List.mem_append.mp member with inFront | inWord
        · exact absurd (List.all_eq_true.mp blankFront ':' inFront) (by decide)
        · exact absurd (List.all_eq_true.mp words ':' inWord) (by decide +kernel)
      obtain ⟨first, others, split⟩ : ∃ first others, front ++ word = first :: others :=
        List.exists_cons_of_ne_nil (by simp [nonempty])
      have regrouped : front ++ (word ++ (behind ++ sign)) ++ rest =
          first :: (others ++ (behind ++ (sign ++ rest))) := by
        rw [← List.cons_append, ← split]
        simp
      rw [List.cons_append, regrouped, List.cons_prefix_cons, List.cons_prefix_cons] at colons
      exact noColon first (by rw [split]; exact List.mem_cons_self) colons.2.1.symm

/-! ## The counter -/

/-- What the start of a header goes on with behind the first letters of a word of a type, up to the
counter. -/
def behindWord : Pattern :=
  optional ("<" ++ many (butNot ">") ++ ">") ++ (optional (among "*&") ++ (Pattern.gap ++
    (many leadingWord ++ keep 1 sigilName)))

theorem Assigns.unsplit {sign : Text} (assigns : Assigns sign) : Text.Unsplit ';' sign := by
  have plain : ∀ {sign : Text}, sign = ['='] ∨ sign = [':', '='] → Text.Unsplit ';' sign := by
    rintro sign (rfl | rfl)
    all_goals exact fun _ _ _ => rfl
  cases assigns with
  | plain isSign => exact plain isSign
  | typed blankFront _ words blankBehind isSign =>
      have colon : Text.Unsplit ';' [':'] := fun _ _ _ => rfl
      exact colon.append ((Text.unsplit_of (by decide +kernel) blankFront).append
        ((Text.unsplit_of (by decide +kernel) words).append
          ((Text.unsplit_of (by decide +kernel) blankBehind).append (plain isSign))))

section Counter

variable {counter spelled gap sign before rest : Text} {kept : List (Nat × Piece)}

theorem refuses_counter_of_isBlank {letter : Char} (blank : isBlank letter = true) :
    (many leadingWord ++ keep 1 sigilName).refuses letter = true := by
  have unspelled := not_isSpelling_of_isBlank blank
  have notStart : isNameStart letter = false := by
    refine Bool.eq_false_iff.mpr fun starts => ?_
    rw [isSpelling_of_isWord (isWord_of_isNameStart starts)] at unspelled
    cases unspelled
  rw [isSpelling, Bool.or_eq_false_iff, decide_eq_false_iff_not] at unspelled
  simp [refuses, mayStay, mayTake, leadingWord, wordRun, some1, wordLetter, sigilName, Pattern.name,
    Pattern.optional, word, unspelled, notStart]

theorem ways_behindWord_eq_nil (blankGap : Text.blank gap = true) {mark : Char}
    (isMark : mark = ':' ∨ mark = '=') :
    ways behindWord ⟨⟨before, gap ++ mark :: rest⟩, kept⟩ = [] := by
  have refused : (many leadingWord ++ keep 1 sigilName).refuses mark = true ∧
      behindWord.refuses mark = true ∧ isBlank mark = false := by
    rcases isMark with rfl | rfl <;> decide +kernel
  cases gap with
  | nil => exact ways_of_refuses rfl refused.2.1
  | cons space gap =>
      obtain ⟨blankSpace, blankMore⟩ : isBlank space = true ∧ gap.all isBlank = true :=
        Bool.and_eq_true_iff.mp blankGap
      have others : ∀ mark ∈ ['<', '*', '&'], space ≠ mark := ne_of_any (by decide) blankSpace
      have noArguments : ways (optional ("<" ++ many (butNot ">") ++ ">"))
          ⟨⟨before, space :: gap ++ mark :: rest⟩, kept⟩ = [_] :=
        ways_optional_of_nil
          (ways_of_refuses rfl (by simp [refuses, mayStay, mayTake, word, others]))
      have noMark : ways (optional (among "*&"))
          ⟨⟨before, space :: gap ++ mark :: rest⟩, kept⟩ = [_] :=
        ways_optional_of_nil
          (ways_of_refuses rfl (by simp [refuses, mayStay, mayTake, among, others]))
      have passed := @Settles.of_run isBlank isBlank before gap (mark :: rest) kept isBlank space
        blankSpace blankMore blankMore (by simpa using refused.2.2)
      rw [behindWord, ways_append_of_singleton noArguments, ways_append_of_singleton noMark]
      exact (passed.ways_append fun letter => refuses_counter_of_isBlank).trans
        (ways_of_refuses rfl refused.1)

theorem ways_leadingWord : ways (leadingWord ++ (many leadingWord ++ keep 1 sigilName)) =
    ways (wordRun ++ (many ("::" ++ wordRun) ++ behindWord)) := by
  rw [leadingWord, ways_append_append, ways_append_append, ways_append_append, ways_append_append]
  rfl

theorem refuses_behindWord_of_isWord {letter : Char} (word : isWord letter = true) :
    (many ("::" ++ wordRun) ++ behindWord).refuses letter = true := by
  have visible := not_isBlank_of_isWord word
  have others : ∀ mark ∈ [':', '<', '*', '&'], letter ≠ mark := ne_of_any (by decide +kernel) word
  simp [behindWord, refuses, mayStay, mayTake, Pattern.word, Pattern.optional, among, gap, some1,
    blank, visible, others]

/-- The counter is no word of a type with a name behind it. -/
theorem ways_leadingWord_eq_nil (spells : Spells counter spelled) (blankGap : Text.blank gap = true)
    (assigns : Assigns sign) :
    ways (leadingWord ++ (many leadingWord ++ keep 1 sigilName))
      ⟨⟨before, spelled ++ (gap ++ (sign ++ rest))⟩, kept⟩ = [] := by
  obtain ⟨mark, more, split, isMark, noScope⟩ := assigns.exists_cons rest
  obtain ⟨isSigil, isName⟩ := spells
  obtain ⟨first, run, rfl, starts, words⟩ := Text.exists_cons_of_isIdentifier isName
  simp only [sigils, List.mem_cons, List.not_mem_nil, or_false] at isSigil
  rcases isSigil with rfl | rfl
  · have noWord : isWord mark = false := by
      rcases isMark with rfl | rfl <;> decide +kernel
    have stops : (gap ++ (sign ++ rest)).head?.all (fun letter => !isWord letter) = true := by
      rw [split]
      exact Text.stops_gap (fun _ => id) blankGap noWord more
    have taken := @Settles.of_run isWord isWord before run (gap ++ (sign ++ rest)) kept isWord first
      (isWord_of_isNameStart starts) words words stops
    have noScopes : ¬ [':', ':'] <+: gap ++ (sign ++ rest) := by
      cases gap with
      | nil => exact noScope
      | cons space gap =>
          rw [List.cons_append, List.cons_prefix_cons]
          rintro ⟨rfl, _⟩
          cases blankGap
    have none : ways (many ("::" ++ wordRun))
        ⟨⟨(first :: run).reverse ++ before, gap ++ (sign ++ rest)⟩, kept⟩ = [_] :=
      ways_many_of_nil (ways_append_of_nil (ways_word_eq_nil noScopes _ kept))
    rw [ways_leadingWord]
    refine (taken.ways_append fun letter => refuses_behindWord_of_isWord).trans ?_
    rw [ways_append_of_singleton none, split]
    exact ways_behindWord_eq_nil blankGap isMark
  · have refuses : leadingWord.refuses '$' = true := by decide +kernel
    exact ways_append_of_nil (ways_of_refuses rfl refuses)

/-- All words of a type are passed, and then the counter is kept. -/
theorem first_types (types : List TypeWord) (spells : Spells counter spelled)
    (blankGap : Text.blank gap = true) (assigns : Assigns sign) :
    First (many leadingWord ++ keep 1 sigilName)
      ⟨⟨before, types.flatMap TypeWord.text ++ (spelled ++ (gap ++ (sign ++ rest)))⟩, kept⟩
      ⟨⟨spelled.reverse ++ ((types.flatMap TypeWord.text).reverse ++ before),
          gap ++ (sign ++ rest)⟩,
        (1, ⟨⟨(types.flatMap TypeWord.text).reverse ++ before, spelled ++ (gap ++ (sign ++ rest))⟩,
          ⟨spelled.reverse ++ ((types.flatMap TypeWord.text).reverse ++ before),
            gap ++ (sign ++ rest)⟩⟩) :: kept⟩ := by
  have shortens : Shortens leadingWord := shortens_of_takesLetter rfl
  induction types generalizing before with
  | nil =>
      have stops : (gap ++ (sign ++ rest)).head?.all (fun letter => !isWord letter) = true := by
        obtain ⟨mark, more, split, isMark, _⟩ := assigns.exists_cons rest
        rw [split]
        exact Text.stops_gap (fun _ => id) blankGap
          (by rcases isMark with rfl | rfl <;> decide +kernel) more
      rw [List.flatMap_nil, List.nil_append]
      exact First.many_stop shortens (ways_leadingWord_eq_nil spells blankGap assigns)
        (spells.first stops).keep
  | cons type types inductionHypothesis =>
      have stops : (types.flatMap TypeWord.text ++ (spelled ++ (gap ++ (sign ++ rest)))).head?.all
          (fun letter => !isBlank letter) = true := by
        cases types with
        | nil => exact spells.bare.head?_all _
        | cons type types =>
            obtain ⟨first, more, split, word⟩ := type.exists_cons
            rw [List.flatMap_cons, split]
            simpa using not_isBlank_of_isWord word
      have further := @inductionHypothesis (type.text.reverse ++ before)
      have leads := First.many_step shortens (type.first stops) further
      simpa using leads

/-- An equals sign is passed, with a colon in front or without. -/
theorem first_sign {pattern : Pattern} {here : Progress}
    (isSign : sign = ['='] ∨ sign = [':', '='])
    (leads : First pattern here ⟨⟨before, sign ++ rest⟩, kept⟩) :
    First (pattern ++ optional ":" ++ "=") here ⟨⟨sign.reverse ++ before, rest⟩, kept⟩ := by
  rcases isSign with rfl | rfl
  · have noColon : ¬ [':'] <+: ['='] ++ rest := by simp
    have skipped := First.optional_of_nil (ways_word_eq_nil noColon before kept)
    exact (leads.append skipped).append (First.word ['='])
  · have colon : First (optional ":") ⟨⟨before, [':'] ++ (['='] ++ rest)⟩, kept⟩ _ :=
      First.optional (First.word [':'])
    exact (leads.append colon).append (First.word ['='])

/-- A sign of assignment is passed, with a type in front or without. -/
theorem Assigns.first {pattern : Pattern} {here : Progress} (assigns : Assigns sign)
    (leads : First pattern here ⟨⟨before, sign ++ rest⟩, kept⟩) :
    First (pattern ++ optional (":" ++ blanks ++ wordRun ++ blanks) ++ optional ":" ++ "=") here
      ⟨⟨sign.reverse ++ before, rest⟩, kept⟩ := by
  cases assigns with
  | plain isSign =>
      have noType : ways (":" ++ blanks ++ wordRun) ⟨⟨before, sign ++ rest⟩, kept⟩ = [] := by
        rcases isSign with rfl | rfl
        · have refuses : (":" ++ blanks ++ wordRun).refuses '=' = true := by decide +kernel
          exact ways_of_refuses rfl refuses
        · have refuses : (blanks ++ wordRun).refuses '=' = true := by decide +kernel
          have colon : ways (":" ++ (blanks ++ wordRun)) ⟨⟨before, ':' :: '=' :: rest⟩, kept⟩ =
              ways (blanks ++ wordRun) _ :=
            ways_append_of_singleton (ways_word [':'] before ('=' :: rest) kept)
          rw [ways_append_append]
          exact colon.trans (ways_of_refuses rfl refuses)
      exact first_sign isSign (leads.append (First.optional_of_nil (ways_append_of_nil noType)))
  | @typed front word behind sign blankFront nonempty words blankBehind isSign =>
      have wordStops : (behind ++ (sign ++ rest)).head?.all (fun letter => !isWord letter) =
          true := by
        rcases isSign with rfl | rfl
        · exact Text.stops_gap (fun _ => id) blankBehind (by decide +kernel) rest
        · exact Text.stops_gap (fun _ => id) blankBehind (by decide +kernel) ('=' :: rest)
      have signStops : (sign ++ rest).head?.all (fun letter => !isBlank letter) = true := by
        rcases isSign with rfl | rfl <;> rfl
      have frontStops : (word ++ (behind ++ (sign ++ rest))).head?.all
          (fun letter => !isBlank letter) = true := by
        obtain ⟨first, more, rfl⟩ := List.exists_cons_of_ne_nil nonempty
        simpa using not_isBlank_of_isWord (List.all_eq_true.mp words first List.mem_cons_self)
      have annotated : First (optional (":" ++ blanks ++ wordRun ++ blanks))
          ⟨⟨before, [':'] ++ (front ++ (word ++ (behind ++ (sign ++ rest))))⟩, kept⟩ _ :=
        First.optional ((First.word [':']).append (first_blanks blankFront frontStops) |>.append
          (First.some1_run nonempty words wordStops) |>.append (first_blanks blankBehind signStops))
      have regrouped : ':' :: (front ++ (word ++ (behind ++ sign))) ++ rest =
          [':'] ++ (front ++ (word ++ (behind ++ (sign ++ rest)))) := by simp
      rw [regrouped] at leads
      simpa using first_sign isSign (leads.append annotated)

end Counter

/-! ## Starts as they are read -/

/-- A start of the counter: words of a type, the counter, a sign of assignment, the start. -/
inductive IsStart (counter start : Text) : Text → Prop
  | of_types {types : List TypeWord} {spelled sign assigned : Text} : Spells counter spelled →
      Assigns sign → Text.Padded sign assigned →
      IsStart counter start (types.flatMap TypeWord.text ++ (spelled ++ (assigned ++ start)))

namespace IsStart

variable {counter start clause : Text}

theorem isIdentifier (isStart : IsStart counter start clause) :
    Text.isIdentifier counter = true := by
  obtain ⟨spells, _, _⟩ := isStart
  exact spells.isIdentifier

theorem bare (isStart : IsStart counter start clause) (bareStart : Text.Bare start) :
    Text.Bare clause := by
  obtain @⟨types, spelled, sign, assigned, spells, _, _⟩ := isStart
  have counted : Text.Bare (spelled ++ (assigned ++ start)) :=
    spells.bare.append (Text.exists_last_append _ bareStart.back)
  cases types with
  | nil => exact counted
  | cons type types =>
      obtain ⟨first, more, split, word⟩ := type.exists_cons
      refine ⟨⟨first, _, by rw [List.flatMap_cons, split]; rfl, not_isBlank_of_isWord word, ?_⟩,
        Text.exists_last_append _ counted.back⟩
      rintro rfl
      exact absurd word (by decide +kernel)

theorem unsplit (isStart : IsStart counter start clause) (quiet : start.all isQuiet = true) :
    Text.Unsplit ';' clause := by
  obtain @⟨types, spelled, sign, assigned, spells, assigns, isPadded⟩ := isStart
  have words : Text.Unsplit ';' (types.flatMap TypeWord.text) := by
    induction types with
    | nil => exact fun _ _ _ => rfl
    | cons type types inductionHypothesis => exact type.unsplit.append inductionHypothesis
  exact words.append ((Text.unsplit_of_isQuiet spells.all_isQuiet).append
    ((isPadded.unsplit assigns.unsplit).append (Text.unsplit_of_isQuiet quiet)))

/-- The start is read as such, for all the words in front of the counter. -/
theorem exists_find? (isStart : IsStart counter start clause)
    (bareStart : Text.Bare start) (quiet : start.all isQuiet = true) :
    ∃ found, startClause.find? clause = some found ∧ Text.bareName (found.group 1) = counter ∧
      found.group 2 = start := by
  obtain @⟨types, spelled, sign, assigned, spells, assigns, isPadded⟩ := isStart
  obtain @⟨gap, behind, blankGap, blankBehind⟩ := isPadded
  have startStops := bareStart.head?_all []
  have signStops : (sign ++ (behind ++ start)).head?.all (fun letter => !isBlank letter) =
      true := by
    obtain ⟨mark, more, split, isMark, _⟩ := assigns.exists_cons (behind ++ start)
    rw [split]
    rcases isMark with rfl | rfl <;> rfl
  simp only [List.append_assoc, List.append_nil] at startStops ⊢
  have named := First.textStart.append
    (@first_types counter spelled gap sign [] (behind ++ start) [] types spells blankGap assigns)
  rw [First, ← ways_append_append] at named
  have leads : First startClause ⟨.start _, []⟩ _ :=
    (assigns.first (First.append named (first_blanks blankGap signStops))).append
      (first_blanks blankBehind startStops) |>.append
      (first_line bareStart.ne_nil quiet).keep |>.append First.textEnd
  refine ⟨_, leads.find?, ?_, Match.group_of_lookup rfl (List.append_nil start).symm⟩
  rw [Match.group_of_lookup rfl rfl]
  exact spells.bareName

end IsStart

end InputDemand
