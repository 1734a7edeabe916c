import InputDemand.Proofs.Loop.Conditions
import InputDemand.Proofs.Loop.Declarations

/-!
# How declarations are read

Of the ways in which the tokens of a declaration can be found, the first reads each token up to its
end.  It keeps the size behind the blanks in front of it, or stops behind the bracket that opens a
list.
-/

namespace InputDemand

open Pattern

theorem Text.blank_append {front back : Text} (blankFront : Text.blank front = true)
    (blankBack : Text.blank back = true) : Text.blank (front ++ back) = true := by
  rw [Text.blank, List.all_append, Bool.and_eq_true]
  exact ⟨blankFront, blankBack⟩

/-! ## Reading up to a tail -/

/-- The first way of a pattern leads from the start of a text to a tail of it and keeps the texts
of the keys, the newest first, whatever stands in front of the text. -/
def Pattern.Reads (pattern : Pattern) (rest tail : Text) (keys : List Text) : Prop :=
  ∀ before kept, ∃ (before' : Text) (pieces : List Piece), pieces.map Piece.text = keys ∧
    First pattern ⟨⟨before, rest⟩, kept⟩ ⟨⟨before', tail⟩, pieces.map (Prod.mk 1) ++ kept⟩

namespace Pattern.Reads

variable {pattern first second body : Pattern} {accepts : Char → Bool}
  {text run gap rest middle tail : Text} {keys more : List Text}

theorem append (toMiddle : Reads first rest middle keys) (further : Reads second middle tail more) :
    Reads (first ++ second) rest tail (more ++ keys) := by
  intro before kept
  obtain ⟨before', pieces, rfl, leads⟩ := toMiddle before kept
  obtain ⟨before'', others, rfl, leadsOn⟩ := further before' (pieces.map (Prod.mk 1) ++ kept)
  refine ⟨before'', others ++ pieces, List.map_append, ?_⟩
  rw [List.map_append, List.append_assoc]
  exact leads.append leadsOn

theorem of_first {place : Text → Text}
    (leads : ∀ before kept, First pattern ⟨⟨before, rest⟩, kept⟩ ⟨⟨place before, tail⟩, kept⟩) :
    Reads pattern rest tail [] :=
  fun before kept => ⟨place before, [], rfl, leads before kept⟩

theorem of_eq {other : Text} (reads : Reads pattern rest tail keys) (same : other = rest) :
    Reads pattern other tail keys :=
  same ▸ reads

theorem word (text tail : Text) : Reads (.word text) (text ++ tail) tail [] :=
  of_first fun _ _ => First.word text

theorem blanks (blankGap : Text.blank gap = true)
    (stops : tail.head?.all (fun letter => !isBlank letter) = true) :
    Reads Pattern.blanks (gap ++ tail) tail [] :=
  of_first fun _ _ => first_blanks blankGap stops

theorem noBlanks (stops : tail.head?.all (fun letter => !isBlank letter) = true) :
    Reads Pattern.blanks tail tail [] :=
  @blanks [] tail rfl stops

theorem many_run (accepted : run.all accepts = true)
    (stops : tail.head?.all (fun letter => !accepts letter) = true) :
    Reads (many (.letter accepts)) (run ++ tail) tail [] :=
  of_first fun _ _ => First.many_run accepted stops

theorem some1_run (nonempty : run ≠ []) (accepted : run.all accepts = true)
    (stops : tail.head?.all (fun letter => !accepts letter) = true) :
    Reads (some1 (.letter accepts)) (run ++ tail) tail [] :=
  of_first fun _ _ => First.some1_run nonempty accepted stops

theorem letter {found : Char} (accepted : accepts found = true) (tail : Text) :
    Reads (.letter accepts) (found :: tail) tail [] :=
  of_first fun _ _ => First.letter accepted

theorem keep (reads : Reads body (text ++ tail) tail []) :
    Reads (.keep 1 body) (text ++ tail) tail [text] := by
  intro before kept
  obtain ⟨before', pieces, none, leads⟩ := reads before kept
  cases pieces with
  | nil =>
      exact ⟨before', [⟨⟨before, text ++ tail⟩, ⟨before', tail⟩⟩],
        congrArg (fun found => [found]) (Cursor.textUpTo_of_rest rfl), leads.keep⟩
  | cons => cases none

theorem optional (reads : Reads body rest tail keys) :
    Reads (Pattern.optional body) rest tail keys :=
  fun before kept => by
    obtain ⟨before', pieces, same, leads⟩ := reads before kept
    exact ⟨before', pieces, same, leads.optional⟩

theorem skip (none : ∀ before kept, ways body ⟨⟨before, rest⟩, kept⟩ = []) :
    Reads (Pattern.optional body) rest rest [] :=
  of_first fun before kept => First.optional_of_nil (none before kept)

theorem skip_of_refuses {next : Char} (ahead : rest.head? = some next)
    (refuses : body.refuses next = true) : Reads (Pattern.optional body) rest rest [] :=
  skip fun _ _ => ways_of_refuses ahead refuses

theorem oneOf {alternatives : List Pattern} (earlier later : List Pattern)
    (split : alternatives = earlier ++ body :: later)
    (none : ∀ pattern ∈ earlier, ∀ before kept, ways pattern ⟨⟨before, rest⟩, kept⟩ = [])
    (reads : Reads body rest tail keys) : Reads (Pattern.oneOf alternatives) rest tail keys :=
  fun before kept => by
    obtain ⟨before', pieces, same, leads⟩ := reads before kept
    exact ⟨before', pieces, same, leads.oneOf split fun pattern member => none pattern member _ _⟩

theorem spaced {patterns : List Pattern} (token : Reads first rest (gap ++ middle) [])
    (blankGap : Text.blank gap = true)
    (stops : middle.head?.all (fun letter => !isBlank letter) = true)
    (others : Reads (Pattern.spaced (second :: patterns)) middle tail keys) :
    Reads (Pattern.spaced (first :: second :: patterns)) rest tail keys := by
  have reads := token.append ((blanks blankGap stops).append others)
  rwa [List.append_nil, List.append_nil] at reads

/-- A token that is passed over leaves the blanks on both sides of it to be read at once. -/
theorem spaced_skip {patterns : List Pattern} {behind : Text}
    (token : Reads first rest (gap ++ (behind ++ middle)) [])
    (blankGap : Text.blank gap = true) (blankBehind : Text.blank behind = true)
    (stops : middle.head?.all (fun letter => !isBlank letter) = true)
    (skipped : Reads body middle middle [])
    (others : Reads (Pattern.spaced (second :: patterns)) middle tail keys) :
    Reads (Pattern.spaced (first :: body :: second :: patterns)) rest tail keys := by
  rw [← List.append_assoc] at token
  exact token.spaced (Text.blank_append blankGap blankBehind) stops
    (@spaced _ _ [] middle middle tail keys patterns skipped rfl stops others)

end Pattern.Reads

namespace Declaration

variable {name text gap rest tail size : Text} {isInner : Text → Prop}

/-! ## Reading tokens -/

theorem stops_at {keep : Char → Bool} (free : ∀ letter, isBlank letter = true → keep letter = false)
    (blankGap : Text.blank gap = true)
    (stops : rest.head?.all (fun letter => !keep letter) = true) :
    (gap ++ rest).head?.all (fun letter => !keep letter) = true := by
  cases gap with
  | nil => exact stops
  | cons letter gap =>
      have noLetter := free letter (Bool.and_eq_true_iff.mp blankGap).1
      simp [noLetter]

theorem free_of_words (marks : List Char) (visible : marks.any isBlank = false)
    {letter : Char} (blankLetter : isBlank letter = true) :
    (isWord letter || marks.contains letter) = false := by
  have noWord : isWord letter = false := Bool.eq_false_iff.mpr fun inWord => by
    rw [not_isBlank_of_isWord inWord] at blankLetter
    cases blankLetter
  have unmarked : marks.contains letter = false := Bool.eq_false_iff.mpr fun marked =>
    List.any_eq_false.mp visible letter (List.contains_iff_mem.mp marked) blankLetter
  rw [noWord, unmarked]
  rfl

theorem isTypeLetter_of_isBlank (letter : Char) (blankLetter : isBlank letter = true) :
    isTypeLetter letter = false :=
  free_of_words "<>.".toList (by decide) blankLetter

theorem isPathLetter_of_isBlank (letter : Char) (blankLetter : isBlank letter = true) :
    isPathLetter letter = false := by
  have free := free_of_words ['.'] (by decide) blankLetter
  simpa [isPathLetter, List.contains_cons] using free

theorem isWord_of_isBlank (letter : Char) (blankLetter : isBlank letter = true) :
    isWord letter = false := by
  have free := free_of_words [] rfl blankLetter
  simpa using free

theorem isDecimal_of_isBlank (letter : Char) (blankLetter : isBlank letter = true) :
    isDecimal letter = false := Bool.eq_false_iff.mpr fun decimal => by
  have noWord := isWord_of_isBlank letter blankLetter
  rw [isWord_of_isDecimal decimal] at noWord
  cases noWord

theorem reads_bracketed {inside : Pattern} {keys : List Text} (inner : Text)
    (blankGap : Text.blank gap = true)
    (stops : (inner ++ ']' :: rest).head?.all (fun letter => !isBlank letter) = true)
    (reads : Reads inside (inner ++ ']' :: rest) (']' :: rest) keys) :
    Reads (bracketed inside) ('[' :: (gap ++ (inner ++ ']' :: rest))) rest keys := by
  have opening := Reads.word ['['] (gap ++ (inner ++ ']' :: rest))
  have closing := Reads.word [']'] rest
  have whole := ((opening.append (Reads.blanks blankGap stops)).append reads).append closing
  rw [List.append_nil, List.append_nil] at whole
  exact whole

theorem head?_dropWhile (notBlank : Text.blank text = false) :
    text.dropWhile isBlank ≠ [] ∧ ∀ more,
      (text.dropWhile isBlank ++ more).head?.all (fun letter => !isBlank letter) = true := by
  have nonempty : text.dropWhile isBlank ≠ [] := by
    intro none
    rw [List.dropWhile_eq_nil_iff] at none
    rw [Text.blank, List.all_eq_true.mpr none] at notBlank
    cases notBlank
  refine ⟨nonempty, fun more => ?_⟩
  have visible := List.head_dropWhile_not isBlank nonempty
  obtain ⟨first, others, split⟩ := List.exists_cons_of_ne_nil nonempty
  simp only [split, List.head_cons] at visible
  simp [split, visible]

/-- Of a text that avoids some marks, all but the blanks in front is kept, up to such a mark. -/
theorem reads_kept {marks : List Char} (notBlank : Text.blank text = false)
    (avoids : Avoids marks text)
    (stops : rest.head?.all (fun letter => marks.contains letter) = true) :
    Reads (keep 1 (some1 (letter fun found => !marks.contains found)))
      (text.dropWhile isBlank ++ rest) rest [text.dropWhile isBlank] := by
  refine Reads.keep (Reads.some1_run (head?_dropWhile notBlank).1 ?_ (by simpa using stops))
  exact all_butNot.mpr fun mark listed inside =>
    avoids mark listed ((List.dropWhile_sublist _).subset inside)

/-- A size in square brackets is kept without the blanks in front of it. -/
theorem reads_size (notBlank : Text.blank size = false) (avoids : Avoids [']'] size) (rest : Text) :
    Reads (bracketed (keep 1 (some1 (butNot "]")))) ('[' :: (size ++ ']' :: rest)) rest
      [size.dropWhile isBlank] := by
  have reads := reads_bracketed (size.dropWhile isBlank) (@List.all_takeWhile _ isBlank size)
    ((head?_dropWhile notBlank).2 (']' :: rest))
    (@reads_kept size (']' :: rest) [']'] notBlank avoids rfl)
  rwa [← List.append_assoc, List.takeWhile_append_dropWhile] at reads

/-- A name is read, and the index behind it if there is one. -/
theorem reads_indexed {inside second : Pattern} {patterns : List Pattern} {index behind : Text}
    {keys : List Text} (name : Text) (isIndex : IsIndex isInner index)
    (reads : ∀ {gap inner : Text}, Text.blank gap = true → isInner inner → ∀ rest,
      Reads (bracketed inside) ('[' :: (gap ++ (inner ++ ']' :: rest))) rest [])
    (blankGap : Text.blank gap = true) (blankBehind : Text.blank behind = true)
    (visible : rest.head?.all (fun letter => !isBlank letter) = true)
    (noBracket : rest.head? ≠ some '[')
    (others : Reads (spaced (second :: patterns)) rest tail keys) :
    Reads (spaced (word name :: optional (bracketed inside) :: second :: patterns))
      (name ++ (gap ++ (index ++ (behind ++ rest)))) tail keys := by
  cases isIndex with
  | none =>
      rw [List.nil_append]
      refine (Reads.word name _).spaced_skip blankGap blankBehind visible ?_ others
      refine Reads.skip fun before kept => ?_
      have absent : ¬ "[".toList <+: rest := by
        rintro ⟨more, rfl⟩
        exact noBracket rfl
      have missed := ways_word_eq_nil absent before kept
      exact ways_append_of_nil (ways_append_of_nil (ways_append_of_nil missed))
  | brackets blankInner isInside =>
      have index := (reads blankInner isInside (behind ++ rest)).optional
      have whole := (Reads.word name _).spaced blankGap rfl
        (index.spaced blankBehind visible others)
      simpa using whole

theorem reads_noLength (blankGap : Text.blank gap = true) {inner : Text} (none : inner = [])
    (rest : Text) :
    Reads (bracketed nothing) ('[' :: (gap ++ (inner ++ ']' :: rest))) rest [] := by
  subst none
  exact reads_bracketed [] blankGap rfl (Reads.of_first fun _ _ => First.nothing)

theorem reads_length (blankGap : Text.blank gap = true) {inner : Text} (isLength : IsLength inner)
    (rest : Text) : Reads (bracketed (many wordLetter ++ blanks))
      ('[' :: (gap ++ (inner ++ ']' :: rest))) rest [] := by
  obtain ⟨run, behind, inWord, blankBehind, rfl⟩ := isLength
  have stops : (']' :: rest).head?.all (fun letter => !isWord letter) = true :=
    (by decide +kernel : (!isWord ']') = true)
  cases run with
  | nil =>
      -- Without a word all blanks are read in front of it.
      have joined := Text.blank_append blankGap blankBehind
      have nothing : Reads (many wordLetter ++ blanks) (']' :: rest) (']' :: rest) [] :=
        (@Reads.many_run isWord [] (']' :: rest) rfl stops).append (Reads.noBlanks rfl)
      have whole := reads_bracketed [] joined rfl nothing
      simpa using whole
  | cons letter run =>
      have visible : (letter :: run ++ behind ++ ']' :: rest).head?.all
          (fun letter => !isBlank letter) = true := by
        simp [not_isBlank_of_isWord (Bool.and_eq_true_iff.mp inWord).1]
      refine reads_bracketed _ blankGap visible ?_
      rw [List.append_assoc]
      exact (Reads.many_run inWord (stops_at isWord_of_isBlank blankBehind stops)).append
        (Reads.blanks blankBehind rfl)

/-! ## Reading signs -/

section Signs

variable {sign assignment type : Text}

/-- A type is read up to the sign of assignment behind it. -/
theorem reads_typed (nonempty : type ≠ []) (avoids : Avoids ['=', '\n'] type) (rest : Text) :
    Reads typeAnnotation (':' :: (type ++ '=' :: rest)) ('=' :: rest) [] :=
  ((Reads.word [':'] _).append
    (Reads.some1_run nonempty (all_butNot.mpr avoids) rfl)).optional

theorem reads_untyped {next : Char} (ahead : rest.head? = some next) (other : next ≠ ':') :
    Reads typeAnnotation rest rest [] := by
  refine Reads.skip_of_refuses ahead ?_
  simp [word, refuses, mayStay, mayTake, other]

theorem reads_equal (isSign : IsSign ['='] sign) (rest : Text) :
    Reads (typedSign "=") (sign ++ rest) rest [] := by
  cases isSign with
  | plain => exact (reads_untyped rfl (by decide)).append (Reads.word ['='] rest)
  | annotated nonempty avoids =>
      have whole := (reads_typed nonempty avoids rest).append (Reads.word ['='] rest)
      simpa [typedSign] using whole

theorem reads_arrow (rest : Text) :
    Reads (oneOf [":=", "=", "<-"]) ('<' :: '-' :: rest) rest [] := by
  refine Reads.oneOf [":=", "="] [] rfl ?_ (Reads.word ['<', '-'] rest)
  intro pattern member before kept
  refine ways_of_refuses rfl ?_
  revert pattern
  decide

theorem reads_equalAlone (rest : Text) : Reads (oneOf [":=", "=", "<-"]) ('=' :: rest) rest [] := by
  refine Reads.oneOf [":="] ["<-"] rfl ?_ (Reads.word ['='] rest)
  intro pattern member before kept
  refine ways_of_refuses rfl ?_
  revert pattern
  decide

/-- A sign is read in full, unless it is an arrow behind a type. -/
theorem reads_sign (isAssignment : assignment ∈ assignments)
    (isSign : IsSign assignment sign) (plain : sign.head? = some ':' → sign.getLast? = some '=')
    (rest : Text) :
    Reads (typedSign (oneOf [":=", "=", "<-"])) (sign ++ rest) rest [] := by
  simp only [assignments, List.mem_cons, List.not_mem_nil, or_false] at isAssignment
  cases isSign with
  | plain =>
      rcases isAssignment with rfl | rfl | rfl
      · have skipped : Reads typeAnnotation (':' :: '=' :: rest) (':' :: '=' :: rest) [] := by
          refine Reads.skip fun before kept => ?_
          have colon := ways_word [':'] before ('=' :: rest) kept
          have behind : ways (some1 (butNot "=\n")) ⟨⟨':' :: before, '=' :: rest⟩, kept⟩ = [] :=
            ways_of_refuses rfl (by decide)
          exact (ways_append_of_singleton colon).trans behind
        exact skipped.append (Reads.oneOf [] ["=", "<-"] rfl (by simp) (Reads.word [':', '='] rest))
      · exact (reads_untyped rfl (by decide)).append (reads_equalAlone rest)
      · exact (reads_untyped rfl (by decide)).append (reads_arrow rest)
  | @annotated type nonempty avoids =>
      rcases isAssignment with rfl | rfl | rfl
      · have colon : Avoids ['=', '\n'] (type ++ [':']) := by
          intro mark listed inside
          rcases List.mem_append.mp inside with inType | isColon
          · exact avoids mark listed inType
          · rw [List.mem_singleton.mp isColon] at listed
            revert listed
            decide
        have whole := (reads_typed (by simp) colon rest).append (reads_equalAlone rest)
        simpa [typedSign] using whole
      · have whole := (reads_typed nonempty avoids rest).append (reads_equalAlone rest)
        simpa [typedSign] using whole
      · have last := plain rfl
        rw [← List.cons_append, List.getLast?_append] at last
        cases last

end Signs

/-! ## Reading the bracket that opens a list -/

section Opened

variable {maker : List Text} {opened type digits : Text} {opening : Char}

theorem visible_of_isRun {keep : Char → Bool}
    (free : ∀ letter, isBlank letter = true → keep letter = false) (isRun : IsRun keep text)
    (more : Text) : (text ++ more).head?.all (fun letter => !isBlank letter) = true := by
  obtain ⟨nonempty, inside⟩ := isRun
  obtain ⟨first, others, rfl⟩ := List.exists_cons_of_ne_nil nonempty
  have kept := (Bool.and_eq_true_iff.mp inside).1
  have visible : isBlank first = false := Bool.eq_false_iff.mpr fun blankFirst => by
    rw [free first blankFirst] at kept
    cases kept
  simp [visible]

theorem reads_wordBlank (wanted : Text) {space : Char} (isSpace : isBlank space = true)
    (rest : Text) : Reads (word wanted ++ blank) (wanted ++ [space] ++ rest) rest [] := by
  rw [List.append_assoc]
  exact (Reads.word wanted (space :: rest)).append (Reads.letter isSpace rest)

theorem ways_eq_nil_of_all {patterns : List Pattern} {next : Char}
    (refused : patterns.all (fun pattern => pattern.refuses next) = true) (more : Text) :
    ∀ pattern ∈ patterns, ∀ before kept, ways pattern ⟨⟨before, next :: more⟩, kept⟩ = [] :=
  fun pattern member _ _ => ways_of_refuses rfl (List.all_eq_true.mp refused pattern member)

/-- A maker is read as the one alternative that its first letter leaves. -/
theorem reads_maker_at (index : Nat) (inside : index < makerPatterns.length) {first : Char}
    (refused : (makerPatterns.take index).all (fun pattern => pattern.refuses first) = true)
    (reads : Reads makerPatterns[index] (first :: rest) tail []) :
    Reads (oneOf makerPatterns) (first :: rest) tail [] := by
  refine Reads.oneOf (makerPatterns.take index) (makerPatterns.drop (index + 1)) ?_
    (ways_eq_nil_of_all refused rest) reads
  rw [List.getElem_cons_drop, List.take_append_drop]

theorem reads_allocation {space : Char} (isSpace : isBlank space = true)
    (isType : IsRun isTypeLetter type)
    (row : Text.Spaced ["new".toList ++ [space], type, ['['], [']']] text) (rest : Text) :
    Reads (spaced ["new" ++ blank, some1 (letter isTypeLetter), "[", "]"]) (text ++ rest) rest
      [] := by
  simp only [Text.spaced_cons_cons, Text.spaced_singleton] at row
  obtain ⟨gap, _, blankGap, ⟨behind, _, blankBehind, ⟨inner, _, blankInner, rfl, rfl⟩, rfl⟩, rfl⟩ :=
    row
  have brackets : Reads (spaced ["[", "]"]) ('[' :: (inner ++ ']' :: rest)) rest [] :=
    (Reads.word ['['] _).spaced blankInner rfl (Reads.word [']'] rest)
  have stops : ('[' :: (inner ++ ']' :: rest)).head?.all (fun letter => !isTypeLetter letter) =
      true := (by decide +kernel : (!isTypeLetter '[') = true)
  have typed := (Reads.some1_run isType.1 isType.2
    (stops_at isTypeLetter_of_isBlank blankBehind stops)).spaced blankBehind rfl brackets
  have whole := (reads_wordBlank "new".toList isSpace _).spaced blankGap
    (visible_of_isRun isTypeLetter_of_isBlank isType _) typed
  simpa using whole

theorem reads_composite (isDigits : digits.all isDecimal = true) (isType : IsRun isPathLetter type)
    (row : Text.Spaced [['['], digits, ']' :: type] text)
    (stops : rest.head?.all (fun letter => !isPathLetter letter) = true) :
    Reads (spaced ["[", many (letter isDecimal), "]" ++ some1 (letter isPathLetter)]) (text ++ rest)
      rest [] := by
  simp only [Text.spaced_cons_cons, Text.spaced_singleton] at row
  obtain ⟨gap, _, blankGap, ⟨behind, _, blankBehind, rfl, rfl⟩, rfl⟩ := row
  have typed : Reads (spaced ["]" ++ some1 (letter isPathLetter)]) (']' :: (type ++ rest)) rest
      [] :=
    (Reads.word [']'] _).append (Reads.some1_run isType.1 isType.2 stops)
  have noDecimal : (']' :: (type ++ rest)).head?.all (fun letter => !isDecimal letter) = true :=
    (by decide +kernel : (!isDecimal ']') = true)
  cases digits with
  | nil =>
      have skipped : Reads (many (letter isDecimal)) (']' :: (type ++ rest)) (']' :: (type ++ rest))
          [] := @Reads.many_run isDecimal [] _ rfl noDecimal
      have whole := (Reads.word ['['] _).spaced_skip blankGap blankBehind rfl skipped typed
      simpa using whole
  | cons digit digits =>
      have visible := visible_of_isRun isDecimal_of_isBlank ⟨List.cons_ne_nil _ _, isDigits⟩
        (behind ++ ']' :: (type ++ rest))
      have numbered := (Reads.many_run isDigits
        (stops_at isDecimal_of_isBlank blankBehind noDecimal)).spaced blankBehind rfl typed
      have whole := (Reads.word ['['] _).spaced blankGap visible numbered
      simpa using whole

/-- What stands in front of the bracket that opens a list is read up to the bracket. -/
theorem reads_maker (isMaker : IsMaker maker) (nonempty : maker ≠ [])
    (row : Text.Spaced maker text) (blankGap : Text.blank gap = true)
    (stops : rest.head?.all (fun letter => !isBlank letter && !isPathLetter letter) = true) :
    Reads (oneOf makerPatterns) (text ++ (gap ++ rest)) rest [] := by
  have visible : rest.head?.all (fun letter => !isBlank letter) = true := by
    cases rest <;> simp_all
  have noPath : rest.head?.all (fun letter => !isPathLetter letter) = true := by
    cases rest <;> simp_all
  have blanksBehind := Reads.blanks blankGap visible
  cases isMaker with
  | none => exact absurd rfl nonempty
  | word listed =>
      rw [Text.spaced_singleton.mp row]
      simp only [List.map_cons, List.map_nil, List.mem_cons, List.not_mem_nil, or_false] at listed
      rcases listed with rfl | rfl | rfl | rfl | rfl
      · exact reads_maker_at 2 (by decide) (by decide +kernel)
          ((Reads.word "array".toList _).append blanksBehind)
      · exact reads_maker_at 3 (by decide) (by decide +kernel)
          ((Reads.word "c".toList _).append blanksBehind)
      · exact reads_maker_at 4 (by decide) (by decide +kernel)
          ((Reads.word "list".toList _).append blanksBehind)
      · exact reads_maker_at 5 (by decide) (by decide +kernel)
          ((Reads.word "Arrays.asList".toList _).append blanksBehind)
      · exact reads_maker_at 6 (by decide) (by decide +kernel)
          ((Reads.word "List.of".toList _).append blanksBehind)
  | allocation isSpace isType =>
      have reads := (reads_allocation isSpace isType row (gap ++ rest)).append blanksBehind
      obtain ⟨more, rfl⟩ := exists_append_of_spaced row
      exact reads_maker_at 0 (by decide) rfl reads
  | composite isDigits isType =>
      have reads := (reads_composite isDigits isType row
        (stops_at isPathLetter_of_isBlank blankGap noPath)).append blanksBehind
      obtain ⟨more, rfl⟩ := exists_append_of_spaced row
      exact reads_maker_at 1 (by decide) (by decide +kernel) reads

/-- Behind an opening bracket, no number in brackets with a type behind it. -/
def Uncomposed (rest : Text) : Prop :=
  ∀ inner letter more, rest = inner ++ ']' :: letter :: more →
    inner.all (fun found => isBlank found || isDecimal found) = true → isPathLetter letter = false

/-- A square bracket opens the list unless it belongs to the type of its elements. -/
theorem ways_makers_eq_nil (uncomposed : Uncomposed rest) (before : Text)
    (kept : List (Nat × Piece)) :
    ways (oneOf makerPatterns) ⟨⟨before, '[' :: rest⟩, kept⟩ = [] := by
  refine List.eq_nil_iff_forall_not_mem.mpr fun there member => ?_
  obtain ⟨_, covers, split, _⟩ := passed_of_mem_ways _ member
  obtain ⟨maker, front, gap, ⟨isMaker, nonempty⟩, row, _, rfl⟩ := covers_makers.mp covers
  rw [List.append_assoc] at split
  cases isMaker with
  | none => exact nonempty rfl
  | word listed =>
      rw [Text.spaced_singleton.mp row] at split
      simp only [List.map_cons, List.map_nil, List.mem_cons, List.not_mem_nil, or_false] at listed
      rcases listed with rfl | rfl | rfl | rfl | rfl <;> cases split
  | allocation =>
      obtain ⟨more, rfl⟩ := exists_append_of_spaced row
      cases split
  | @composite digits type isDigits isType =>
      simp only [Text.spaced_cons_cons, Text.spaced_singleton] at row
      obtain ⟨gap, _, blankGap, ⟨behind, _, blankBehind, rfl, rfl⟩, rfl⟩ := row
      obtain ⟨letter, others, rfl⟩ := List.exists_cons_of_ne_nil isType.1
      have inside : (gap ++ (digits ++ behind)).all
          (fun found => isBlank found || isDecimal found) = true := by
        simp only [List.all_append, Bool.and_eq_true, List.all_eq_true, Bool.or_eq_true]
        exact ⟨fun found member => Or.inl (List.all_eq_true.mp blankGap found member),
          fun found member => Or.inr (List.all_eq_true.mp isDigits found member),
          fun found member => Or.inl (List.all_eq_true.mp blankBehind found member)⟩
      have typed := uncomposed _ letter _ (by simpa using split) inside
      rw [(Bool.and_eq_true_iff.mp isType.2).1] at typed
      cases typed

theorem opening_letter (isOpening : opening ∈ ['[', '(', '\x7b']) : opens opening = true ∧
    isBlank opening = false ∧ isPathLetter opening = false := by
  simp only [List.mem_cons, List.not_mem_nil, or_false] at isOpening
  rcases isOpening with rfl | rfl | rfl
  all_goals exact ⟨rfl, rfl, by decide +kernel⟩

theorem visible_of_isMaker (isMaker : IsMaker maker) (isOpening : opening ∈ ['[', '(', '\x7b'])
    (row : Text.Spaced (maker ++ [[opening]]) opened) (rest : Text) :
    (opened ++ rest).head?.all (fun letter => !isBlank letter) = true := by
  cases isMaker with
  | none =>
      rw [Text.spaced_singleton.mp row]
      simp [(opening_letter isOpening).2.1]
  | word listed =>
      obtain ⟨more, rfl⟩ := exists_append_of_spaced row
      simp only [List.map_cons, List.map_nil, List.mem_cons, List.not_mem_nil, or_false] at listed
      rcases listed with rfl | rfl | rfl | rfl | rfl <;> rfl
  | allocation | composite =>
      obtain ⟨more, rfl⟩ := exists_append_of_spaced row
      rfl

/-- The bracket that opens a list is read with what stands in front of it. -/
theorem reads_opened (isMaker : IsMaker maker) (isOpening : opening ∈ ['[', '(', '\x7b'])
    (row : Text.Spaced (maker ++ [[opening]]) opened)
    (uncomposed : maker = [] → opening = '[' → Uncomposed rest) :
    Reads (optional (oneOf makerPatterns) ++ among "[(\x7b") (opened ++ rest) rest [] := by
  have bracket : Reads (among "[(\x7b") (opening :: rest) rest [] :=
    Reads.letter (List.contains_iff_mem.mpr isOpening) rest
  refine Reads.append ?_ bracket
  cases maker with
  | nil =>
      rw [Text.spaced_singleton.mp row]
      simp only [List.mem_cons, List.not_mem_nil, or_false] at isOpening
      rcases isOpening with rfl | rfl | rfl
      · exact Reads.skip (ways_makers_eq_nil (uncomposed rfl rfl))
      · exact Reads.skip_of_refuses rfl (by decide +kernel)
      · exact Reads.skip_of_refuses rfl (by decide +kernel)
  | cons token maker =>
      have nonempty := List.cons_ne_nil token maker
      obtain ⟨front, gap, further, blankGap, rfl⟩ := (spaced_append_singleton nonempty).mp row
      obtain ⟨_, visible, noPath⟩ := opening_letter isOpening
      have stops : (opening :: rest).head?.all
          (fun letter => !isBlank letter && !isPathLetter letter) = true := by
        simp [visible, noPath]
      have reads := (reads_maker isMaker nonempty further blankGap stops).optional
      simpa using reads

end Opened

/-! ## Reading declarations -/

/-- The text of the size that a declaration states, if it states one. -/
def size? : Declaration → Option Text
  | allocated size | made size | repeated _ size | array size | introduced size => some size
  | listed _ _ _ => none

/-- A declaration is told apart from the tail behind it: its size is not blank and ends where it
should, and its list opens with the bracket that it names. -/
def Ends : Declaration → Text → Prop
  | allocated size, _ | array size, _ => Text.blank size = false
  | made size, tail => Text.blank size = false ∧
      tail.head?.all (fun letter => [',', ')'].contains letter) = true
  | repeated _ _, tail => tail.head?.all (fun letter => !isWord letter) = true
  | introduced _, _ => True
  | listed sign maker opening, tail => (sign.head? = some ':' → sign.getLast? = some '=') ∧
      (maker = [] → opening = '[' → Uncomposed tail)

theorem dropWhile_of_isRun (isRun : IsRun isWord size) : size.dropWhile isBlank = size := by
  obtain ⟨nonempty, inWord⟩ := isRun
  obtain ⟨first, more, rfl⟩ := List.exists_cons_of_ne_nil nonempty
  have visible := not_isBlank_of_isWord (Bool.and_eq_true_iff.mp inWord).1
  exact List.dropWhile_cons_of_neg (by rw [visible]; exact Bool.false_ne_true)

theorem exists_cons_sign {assignment sign : Text} (isAssignment : assignment ∈ assignments)
    (isSign : IsSign assignment sign) : ∃ first more, sign = first :: more ∧
      isBlank first = false ∧ first ≠ '[' := by
  cases isSign with
  | plain =>
      simp only [assignments, List.mem_cons, List.not_mem_nil, or_false] at isAssignment
      rcases isAssignment with rfl | rfl | rfl <;> exact ⟨_, _, rfl, by decide, by decide⟩
  | annotated => exact ⟨':', _, rfl, by decide, by decide⟩

/-- No basic type begins with another. -/
theorem reads_type {type : Text} (isType : type ∈ basicTypes) {space : Char}
    (isSpace : isBlank space = true) (rest : Text) :
    Reads (oneOf (basicTypes.map word) ++ blank) (type ++ [space] ++ rest) rest [] := by
  rw [List.append_assoc]
  refine Reads.append ?_ (Reads.letter isSpace rest)
  obtain ⟨earlier, later, split⟩ := List.append_of_mem isType
  refine Reads.oneOf (earlier.map word) (later.map word) ?_ ?_
    (Reads.word type (space :: rest))
  · rw [split, List.map_append, List.map_cons]
  · intro pattern member before kept
    obtain ⟨other, early, rfl⟩ := List.mem_map.mp member
    refine ways_word_eq_nil (fun found => ?_) before kept
    have comparable : other <+: type ∨ type <+: other :=
      List.prefix_or_prefix_of_prefix found (List.prefix_append type (space :: rest))
    have apart : ∀ one ∈ basicTypes, ∀ other ∈ basicTypes, one <+: other → one = other := by
      decide
    have distinct : (earlier ++ type :: later).Nodup := split ▸ (by decide : basicTypes.Nodup)
    have listed : other ∈ basicTypes := split ▸ List.mem_append_left _ early
    have same : other = type := comparable.elim (apart other listed type isType)
      fun found => (apart type isType other listed found).symm
    exact (List.nodup_append.mp distinct).2.2 other early type List.mem_cons_self same

section Forms

variable {index sign type items : Text} {space : Char}

theorem reads_allocated (isIndex : IsIndex (· = []) index) (isSign : IsSign ['='] sign)
    (isSpace : isBlank space = true) (isType : IsRun isTypeLetter type)
    (notBlank : Text.blank size = false) (avoids : Avoids [']'] size)
    (row : Text.Spaced
      [name, index, sign, "new".toList ++ [space], type, '[' :: (size ++ [']'])] text) :
    Reads (spaced (Form.allocated.tokens name)) (text ++ tail) tail [size.dropWhile isBlank] := by
  simp only [Text.spaced_cons_cons, Text.spaced_singleton] at row
  obtain ⟨gap, _, blankGap, ⟨behind, _, blankBehind, ⟨third, _, blankThird, ⟨fourth, _,
    blankFourth, ⟨last, _, blankLast, rfl, rfl⟩, rfl⟩, rfl⟩, rfl⟩, rfl⟩ := row
  have sized : Reads (spaced [_]) ('[' :: (size ++ ']' :: tail)) tail _ :=
    reads_size notBlank avoids tail
  have stops : ('[' :: (size ++ ']' :: tail)).head?.all (fun letter => !isTypeLetter letter) =
      true := (by decide +kernel : (!isTypeLetter '[') = true)
  have typed := (Reads.some1_run isType.1 isType.2
    (stops_at isTypeLetter_of_isBlank blankLast stops)).spaced blankLast rfl sized
  have allocated := (reads_wordBlank "new".toList isSpace _).spaced blankFourth
    (visible_of_isRun isTypeLetter_of_isBlank isType _) typed
  have signed := (reads_equal isSign _).spaced blankThird rfl allocated
  obtain ⟨first, more, rfl, visible, noBracket⟩ :=
    exists_cons_sign (by decide : ['='] ∈ assignments) isSign
  have whole := reads_indexed name isIndex
    (fun blankGap none rest => reads_noLength blankGap none rest) blankGap blankBehind
    (by simp [visible]) (by simpa using noBracket) signed
  exact whole.of_eq (by simp)

theorem reads_made (isSign : sign ∈ [[':', '='], ['=']]) (isType : IsRun isPathLetter type)
    (notBlank : Text.blank size = false) (avoids : Avoids [',', ')'] size)
    (stops : tail.head?.all (fun letter => [',', ')'].contains letter) = true)
    (row : Text.Spaced
      [name, sign, "make".toList, ['('], '[' :: ']' :: type, [','], size] text) :
    Reads (spaced (Form.made.tokens name)) (text ++ tail) tail [size.dropWhile isBlank] := by
  simp only [Text.spaced_cons_cons, Text.spaced_singleton] at row
  obtain ⟨gap, _, blankGap, ⟨second, _, blankSecond, ⟨third, _, blankThird, ⟨fourth, _,
    blankFourth, ⟨fifth, _, blankFifth, ⟨last, _, blankLast, same, rfl⟩, rfl⟩, rfl⟩, rfl⟩, rfl⟩,
    rfl⟩ := row
  rw [same]
  have sized : Reads (spaced [_]) (size.dropWhile isBlank ++ tail) tail _ :=
    reads_kept notBlank avoids stops
  -- The blanks behind the comma go together with those in front of the size.
  have joined := Text.blank_append blankLast (@List.all_takeWhile _ isBlank size)
  have comma := (Reads.word [','] _).spaced joined ((head?_dropWhile notBlank).2 tail) sized
  have whole : last ++ size.takeWhile isBlank ++ (size.dropWhile isBlank ++ tail) =
      last ++ (size ++ tail) := by
    rw [List.append_assoc, ← List.append_assoc (size.takeWhile isBlank),
      List.takeWhile_append_dropWhile]
  rw [whole] at comma
  have noPath : (',' :: (last ++ (size ++ tail))).head?.all (fun letter => !isPathLetter letter) =
      true := (by decide +kernel : (!isPathLetter ',') = true)
  have typed := ((Reads.word ['[', ']'] _).append (Reads.some1_run isType.1 isType.2
    (stops_at isPathLetter_of_isBlank blankFifth noPath))).spaced blankFifth rfl comma
  have opened := (Reads.word ['('] _).spaced blankFourth rfl typed
  have made := (Reads.word "make".toList _).spaced blankThird rfl opened
  simp only [List.mem_cons, List.not_mem_nil, or_false] at isSign
  rcases isSign with rfl | rfl
  · have signed := ((Reads.word [':'] _).optional.append (Reads.word ['='] _)).spaced blankSecond
      (by rfl) made
    have named := (Reads.word name _).spaced blankGap (by rfl) signed
    exact named.of_eq (by simp)
  · have noColon : ∀ rest, Reads (optional (word [':'])) ('=' :: rest) ('=' :: rest) [] :=
      fun rest => Reads.skip_of_refuses rfl rfl
    have signed := ((noColon _).append (Reads.word ['='] _)).spaced blankSecond (by rfl) made
    have named := (Reads.word name _).spaced blankGap (by rfl) signed
    exact named.of_eq (by simp)

theorem reads_repeated (avoids : Avoids [']'] items) (isRun : IsRun isWord size)
    (stops : tail.head?.all (fun letter => !isWord letter) = true)
    (row : Text.Spaced [name, ['='], '[' :: (items ++ [']']), ['*'], size] text) :
    Reads (spaced (Form.repeated.tokens name)) (text ++ tail) tail [size.dropWhile isBlank] := by
  simp only [Text.spaced_cons_cons, Text.spaced_singleton] at row
  obtain ⟨gap, _, blankGap, ⟨second, _, blankSecond, ⟨third, _, blankThird, ⟨last, _, blankLast,
    same, rfl⟩, rfl⟩, rfl⟩, rfl⟩ := row
  rw [same, dropWhile_of_isRun isRun]
  have sized : Reads (spaced [_]) (size ++ tail) tail _ :=
    (Reads.some1_run isRun.1 isRun.2 stops).keep
  have star := (Reads.word ['*'] _).spaced blankLast (visible_of_isRun isWord_of_isBlank isRun _)
    sized
  have listed := (((Reads.word ['['] _).append (Reads.many_run (all_butNot.mpr avoids) rfl)).append
    (Reads.word [']'] _)).spaced blankThird rfl star
  have equal := (Reads.word ['='] _).spaced blankSecond rfl listed
  have whole := (Reads.word name _).spaced blankGap rfl equal
  exact whole.of_eq (by simp)

theorem reads_array (isType : type ∈ basicTypes) (isSpace : isBlank space = true)
    (isName : IsRun isWord name) (notBlank : Text.blank size = false)
    (avoids : Avoids [']'] size)
    (row : Text.Spaced [type ++ [space], name, '[' :: (size ++ [']'])] text) :
    Reads (spaced (Form.array.tokens name)) (text ++ tail) tail [size.dropWhile isBlank] := by
  simp only [Text.spaced_cons_cons, Text.spaced_singleton] at row
  obtain ⟨gap, _, blankGap, ⟨last, _, blankLast, rfl, rfl⟩, rfl⟩ := row
  have sized : Reads (spaced [_]) ('[' :: (size ++ ']' :: tail)) tail _ :=
    reads_size notBlank avoids tail
  have named := (Reads.word name _).spaced blankLast rfl sized
  have visible := visible_of_isRun isWord_of_isBlank isName
    (last ++ '[' :: (size ++ ']' :: tail))
  have whole := (reads_type isType isSpace _).spaced blankGap visible named
  exact whole.of_eq (by simp)

theorem reads_introduced {second : Char} {brackets : Text} (isSpace : isBlank space = true)
    (isSecond : isBlank second = true) (isName : IsRun isWord name)
    (isRun : IsRun isWord size) (inner : Text.Spaced [['['], size, [']']] brackets)
    (row : Text.Spaced ["var".toList ++ [space], name ++ [second], brackets] text) :
    Reads (spaced (Form.introduced.tokens name)) (text ++ tail) tail [size.dropWhile isBlank] := by
  simp only [Text.spaced_cons_cons, Text.spaced_singleton] at row inner
  obtain ⟨third, _, blankThird, ⟨fourth, _, blankFourth, rfl, rfl⟩, rfl⟩ := inner
  obtain ⟨gap, _, blankGap, ⟨last, _, blankLast, rfl, rfl⟩, rfl⟩ := row
  rw [dropWhile_of_isRun isRun]
  have stops : (']' :: tail).head?.all (fun letter => !isWord letter) = true :=
    (by decide +kernel : (!isWord ']') = true)
  have word := (Reads.some1_run isRun.1 isRun.2 (stops_at isWord_of_isBlank blankFourth stops)).keep
  have inside := (word.append (Reads.blanks blankFourth rfl)).of_eq
    (List.append_assoc size fourth (']' :: tail))
  have visibleSize : (size ++ fourth ++ ']' :: tail).head?.all (fun letter => !isBlank letter) =
      true := by
    rw [List.append_assoc]
    exact visible_of_isRun isWord_of_isBlank isRun _
  have sized : Reads (spaced [_]) _ tail _ := reads_bracketed _ blankThird visibleSize inside
  have named := (reads_wordBlank name isSecond _).spaced blankLast rfl sized
  have visible : ∀ rest, (name ++ [second] ++ rest).head?.all (fun letter => !isBlank letter) =
      true := fun rest => by
    rw [List.append_assoc]
    exact visible_of_isRun isWord_of_isBlank isName ([second] ++ rest)
  have whole := (reads_wordBlank "var".toList isSpace _).spaced blankGap (visible _) named
  exact whole.of_eq (by simp)

theorem reads_listed {assignment opened : Text} {maker : List Text} {opening : Char}
    (isIndex : IsIndex IsLength index) (isAssignment : assignment ∈ assignments)
    (isSign : IsSign assignment sign) (isMaker : IsMaker maker)
    (isOpening : opening ∈ ['[', '(', '\x7b'])
    (inner : Text.Spaced (maker ++ [[opening]]) opened)
    (plain : sign.head? = some ':' → sign.getLast? = some '=')
    (uncomposed : maker = [] → opening = '[' → Uncomposed tail)
    (row : Text.Spaced [name, index, sign, opened] text) :
    Reads (spaced (Form.listed.tokens name)) (text ++ tail) tail [] := by
  simp only [Text.spaced_cons_cons, Text.spaced_singleton] at row
  obtain ⟨gap, _, blankGap, ⟨behind, _, blankBehind, ⟨last, _, blankLast, rfl, rfl⟩, rfl⟩, rfl⟩ :=
    row
  have bracket : Reads (spaced [_]) _ tail _ := reads_opened isMaker isOpening inner uncomposed
  have signed := (reads_sign isAssignment isSign plain _).spaced blankLast
    (visible_of_isMaker isMaker isOpening inner tail) bracket
  obtain ⟨first, more, rfl, visible, noBracket⟩ := exists_cons_sign isAssignment isSign
  have whole := reads_indexed name isIndex
    (fun blankGap isLength rest => reads_length blankGap isLength rest) blankGap blankBehind
    (by simp [visible]) (by simpa using noBracket) signed
  exact whole.of_eq (by simp)

end Forms

/-- A declaration is read token by token up to its tail, and its size is kept. -/
theorem Writes.reads {declaration : Declaration} {tokens : List Text}
    (isName : IsRun isWord name)
    (writes : Writes name declaration tokens) (row : Text.Spaced tokens text)
    (ends : declaration.Ends tail) :
    Reads (spaced (declaration.form.tokens name)) (text ++ tail) tail
      (declaration.size?.toList.map (List.dropWhile isBlank)) := by
  cases writes with
  | allocated isIndex isSign isSpace isType nonempty avoids =>
      exact reads_allocated isIndex isSign isSpace isType ends avoids row
  | made isSign isType nonempty avoids =>
      exact reads_made isSign isType ends.1 avoids ends.2 row
  | repeated avoids isRun =>
      exact reads_repeated avoids isRun ends row
  | array isType isSpace nonempty avoids =>
      exact reads_array isType isSpace isName ends avoids row
  | introduced isSpace isSecond isRun inner =>
      exact reads_introduced isSpace isSecond isName isRun inner row
  | listed isIndex isAssignment isSign isMaker isOpening inner =>
      exact reads_listed isIndex isAssignment isSign isMaker isOpening inner ends.1 ends.2 row

end Declaration

end InputDemand
