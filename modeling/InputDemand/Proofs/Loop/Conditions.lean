import InputDemand.Proofs.Loop.Spellings
import InputDemand.Proofs.Pattern.First
import InputDemand.Source.Assignment

/-!
# Conditions of headers

A condition compares a counter with an end, the counter on either side.  With the counter on the
left it is read at once; otherwise it may be read with another name on the left, which is not the
counter, and only then with the counter on the right.  Whatever a reading takes for the counter is
the whole run of name characters at that side of the condition.
-/

namespace InputDemand

open Pattern

namespace Comparison

def sign : Comparison → Text
  | less => ['<']
  | lessOrEqual => ['<', '=']
  | greater => ['>']
  | greaterOrEqual => ['>', '=']
  | notEqual => ['!', '=']

@[simp]
theorem ofSign_sign (comparison : Comparison) : ofSign comparison.sign = comparison := by
  cases comparison <;> rfl

@[simp]
theorem flip_flip (comparison : Comparison) : comparison.flip.flip = comparison := by
  cases comparison <;> rfl

theorem breaks_sign (comparison : Comparison) : Breaks comparison.sign := by
  cases comparison <;> exact Breaks.of_any (by decide) (by decide +kernel)

end Comparison

/-- A condition on a name, with the name on the left or, unless it says that the two differ, on the
right. -/
inductive IsCondition (name : Text) (comparison : Comparison) (limit : Text) : Text → Prop
  | straight {spelled sign : Text} : Spells name spelled → Text.Padded comparison.sign sign →
      IsCondition name comparison limit (spelled ++ (sign ++ limit))
  | reversed {spelled sign : Text} : comparison ≠ .notEqual → Spells name spelled →
      Text.Padded comparison.flip.sign sign →
      IsCondition name comparison limit (limit ++ (sign ++ spelled))

/-! ## Pieces of a condition -/

section Pieces

variable {name text gap before rest : Text} {kept : List (Nat × Piece)}

theorem Spells.first (spells : Spells name text)
    (stops : rest.head?.all (fun letter => !isWord letter) = true) :
    First sigilName ⟨⟨before, text ++ rest⟩, kept⟩ ⟨⟨text.reverse ++ before, rest⟩, kept⟩ := by
  obtain ⟨isSigil, isName⟩ := spells
  obtain ⟨first, more, rfl, starts, words⟩ := Text.exists_cons_of_isIdentifier isName
  have named : ∀ before, First Pattern.name ⟨⟨before, first :: (more ++ rest)⟩, kept⟩
      ⟨⟨more.reverse ++ first :: before, rest⟩, kept⟩ := fun before =>
    (First.letter starts).append (First.many_run words stops)
  simp only [sigils, List.mem_cons, List.not_mem_nil, or_false] at isSigil
  rcases isSigil with rfl | rfl
  · have noDollar : ¬ ['$'] <+: first :: (more ++ rest) := by
      rw [List.cons_prefix_cons]
      rintro ⟨rfl, _⟩
      cases starts
    have skipped : First sigilName _ _ :=
      (First.optional_of_nil (ways_word_eq_nil noDollar before kept)).append (named before)
    simpa using skipped
  · have taken : First sigilName ⟨⟨before, '$' :: (first :: (more ++ rest))⟩, kept⟩ _ :=
      (First.optional (First.word ['$'])).append (named ('$' :: before))
    simpa using taken

theorem first_blanks (blankGap : Text.blank gap = true)
    (stops : rest.head?.all (fun letter => !isBlank letter) = true) :
    First blanks ⟨⟨before, gap ++ rest⟩, kept⟩ ⟨⟨gap.reverse ++ before, rest⟩, kept⟩ :=
  First.many_run blankGap stops

theorem all_inLine_of_isQuiet (quiet : text.all isQuiet = true) :
    text.all (· != '\n') = true := List.all_eq_true.mpr fun letter member => by
  rw [bne_iff_ne]
  rintro rfl
  exact not_mem_of_isQuiet quiet '\n' (by decide) member

theorem first_line (nonempty : text ≠ []) (quiet : text.all isQuiet = true) :
    First (some1 inLine) ⟨⟨before, text⟩, kept⟩ ⟨⟨text.reverse ++ before, []⟩, kept⟩ := by
  have whole : First (some1 inLine) ⟨⟨before, text ++ []⟩, kept⟩ _ :=
    First.some1_run nonempty (all_inLine_of_isQuiet quiet) rfl
  rwa [List.append_nil] at whole

theorem ways_blanks_append {second : Pattern} (blankGap : Text.blank gap = true)
    (stops : rest.head?.all (fun letter => !isBlank letter) = true)
    (refuses : ∀ letter, isBlank letter = true → second.refuses letter = true) :
    ways (blanks ++ second) ⟨⟨before, gap ++ rest⟩, kept⟩ =
      ways second ⟨⟨gap.reverse ++ before, rest⟩, kept⟩ :=
  (Settles.of_many blankGap blankGap stops).ways_append refuses

end Pieces

/-! ## Signs -/

/-- The signs that are looked for behind the counter, and those in front of it. -/
def signLists : List (List Text) :=
  [["<=", ">=", "!=", "<", ">"].map String.toList, ["<=", ">=", "<", ">"].map String.toList]

section Signs

variable {signs : List Text} {before rest : Text} {kept : List (Nat × Piece)}

/-- A sign of a list is found if no `=` stands behind it. -/
theorem Comparison.first_sign (isList : signs ∈ signLists) (comparison : Comparison)
    (listed : comparison.sign ∈ signs) (stops : rest.head? ≠ some '=') :
    First (oneOf (signs.map word)) ⟨⟨before, comparison.sign ++ rest⟩, kept⟩
      ⟨⟨comparison.sign.reverse ++ before, rest⟩, kept⟩ := by
  -- In both lists a sign with `=` stands in front of the same sign without.
  obtain ⟨earlier, later, split, others⟩ : ∃ earlier later,
      signs = earlier ++ comparison.sign :: later ∧ ∀ sign ∈ earlier,
        sign ∈ [['<', '='], ['>', '='], ['!', '='], ['<']] ∧ ¬ sign <+: comparison.sign := by
    refine ⟨signs.takeWhile (· ≠ comparison.sign), (signs.dropWhile (· ≠ comparison.sign)).tail, ?_⟩
    simp only [signLists, List.mem_cons, List.not_mem_nil, or_false] at isList
    rcases isList with rfl | rfl <;> cases comparison <;> revert listed <;> decide
  have noEqual : ¬ ['='] <+: rest := by
    rintro ⟨more, rfl⟩
    exact stops rfl
  have patterns : signs.map word = earlier.map word ++ word comparison.sign :: later.map word := by
    rw [split, List.map_append, List.map_cons]
  refine First.oneOf patterns ?_ (First.word comparison.sign)
  intro pattern member
  obtain ⟨sign, early, rfl⟩ := List.mem_map.mp member
  refine ways_word_eq_nil ?_ before kept
  obtain ⟨isSign, noPrefix⟩ := others sign early
  simp only [List.mem_cons, List.not_mem_nil, or_false] at isSign
  revert noPrefix
  rcases isSign with rfl | rfl | rfl | rfl <;> cases comparison <;>
    simp [Comparison.sign, List.cons_prefix_cons, noEqual]

end Signs

/-! ## The counter on the left -/

theorem Match.group_of_lookup {found : Match} {slot : Nat} {piece : Piece} {text : Text}
    (looked : found.kept.lookup slot = some piece)
    (split : piece.start.rest = text ++ piece.stop.rest) : found.group slot = text := by
  rw [group, piece?, looked]
  exact Cursor.textUpTo_of_rest split

theorem isSpelling_of_passes {letter : Char} (passed : sigilName.passes letter = true) :
    isSpelling letter = true := by
  have cases : letter = '$' ∨ isNameStart letter = true ∨ isWord letter = true := by
    simpa [sigilName, Pattern.optional, Pattern.name, passes, word, wordLetter, or_assoc]
      using passed
  rcases cases with rfl | starts | inside
  · decide
  · exact isSpelling_of_isWord (isWord_of_isNameStart starts)
  · exact isSpelling_of_isWord inside

section Condition

variable {name spelled sign limit clause : Text} {comparison : Comparison} {found : Match}

theorem Comparison.head?_sign_append (comparison : Comparison) (rest : Text) :
    (comparison.sign ++ rest).head?.all (fun letter => !isBlank letter) = true := by
  cases comparison <;> rfl

theorem Text.Bare.head?_all {text : Text} (bare : Text.Bare text) (rest : Text) :
    (text ++ rest).head?.all (fun letter => !isBlank letter) = true := by
  obtain ⟨first, more, rfl, visible, _⟩ := bare.front
  simpa using visible

theorem Text.Bare.ne_nil {text : Text} (bare : Text.Bare text) : text ≠ [] := by
  obtain ⟨first, more, rfl, _⟩ := bare.front
  exact List.cons_ne_nil first more

/-- Between a sign and a quiet text there is no `=`. -/
theorem head?_ne_of_isQuiet {gap text : Text} (blankGap : Text.blank gap = true)
    (visible : text ≠ []) (quiet : text.all isQuiet = true) (rest : Text) :
    (gap ++ (text ++ rest)).head? ≠ some '=' := by
  cases gap with
  | nil =>
      obtain ⟨first, more, rfl⟩ := List.exists_cons_of_ne_nil visible
      intro same
      exact not_mem_of_isQuiet quiet '=' (by decide) (by simpa using Or.inl same.symm)
  | cons letter gap =>
      have blankFirst : isBlank letter = true := (Bool.and_eq_true_iff.mp blankGap).1
      rintro ⟨rfl⟩
      cases blankFirst

theorem exists_find?_condition (spells : Spells name spelled)
    (isPadded : Text.Padded comparison.sign sign) (bare : Text.Bare limit)
    (quiet : limit.all isQuiet = true) :
    ∃ found, condition.find? (spelled ++ (sign ++ limit)) = some found ∧
      found.group 2 = comparison.sign ∧ found.group 3 = limit := by
  have unspelled := (comparison.breaks_sign.padded isPadded).head?_all limit
  have signStops := comparison.head?_sign_append
  have limitStops := bare.head?_all []
  obtain @⟨gap, behind, blankGap, blankBehind⟩ := isPadded
  have noEqual := head?_ne_of_isQuiet blankBehind bare.ne_nil quiet []
  have signed : ∀ {before : Text} {kept : List (Nat × Piece)},
      First (oneOf ["<=", ">=", "!=", "<", ">"])
      ⟨⟨before, comparison.sign ++ (behind ++ (limit ++ []))⟩, kept⟩
      ⟨⟨comparison.sign.reverse ++ before, behind ++ (limit ++ [])⟩, kept⟩ :=
    comparison.first_sign List.mem_cons_self (by cases comparison <;> decide) noEqual
  simp only [List.append_assoc, List.append_nil] at unspelled limitStops noEqual signed ⊢
  have leads : First condition ⟨.start _, []⟩ _ := First.textStart.append
    (spells.first unspelled).keep |>.append
    (first_blanks blankGap (signStops _)) |>.append signed.keep |>.append
    (first_blanks blankBehind limitStops) |>.append
    (first_line bare.ne_nil quiet).keep |>.append First.textEnd
  exact ⟨_, leads.find?, Match.group_of_lookup rfl rfl,
    Match.group_of_lookup rfl (List.append_nil limit).symm⟩

/-- What is read in front of the sign is all that stands in front of the first letter that belongs
to no name. -/
theorem group_one_of_condition (hit : condition.find? clause = some found) :
    found.group 1 = clause.takeWhile isSpelling := by
  have anchored : Anchored condition :=
    anchored_textStart.append _ |>.append _ |>.append _ |>.append _ |>.append _ |>.append _
  obtain ⟨there, best, rfl⟩ := anchored.exists_first_of_find? hit
  have member := List.mem_of_mem_head? best
  -- The rest of the pattern starts neither with a letter of a name nor at the end of the clause.
  obtain ⟨tail, split, refuses, keeps⟩ : ∃ tail,
      ways condition = ways (textStart ++ (keep 1 sigilName ++ tail)) ∧
      (∀ letter, isSpelling letter = true → tail.refuses letter = true) ∧
      tail.keeps 1 = false := by
    refine ⟨blanks ++ (keep 2 (oneOf ["<=", ">=", "!=", "<", ">"]) ++ (blanks ++
      (keep 3 (some1 inLine) ++ textEnd))), ?_, fun letter spelling => ?_, rfl⟩
    · simp only [condition, ways_append_append]
      rfl
    · obtain ⟨visible, others⟩ := marks_of_isSpelling spelling
      simp [refuses, mayStay, mayTake, blanks, blank, oneOf, word, visible, others]
  rw [split] at member
  obtain ⟨_, atStart, member⟩ := List.mem_flatMap.mp member
  rw [List.mem_singleton.mp atStart] at member
  obtain ⟨_, keeping, member⟩ := List.mem_flatMap.mp member
  obtain ⟨inner, named, rfl⟩ := List.mem_map.mp keeping
  obtain ⟨spelled, rest, _, letters⟩ := (Passage.of_mem_ways sigilName named).letters
  have looked := (Passage.of_mem_ways tail member).slots 1 keeps
  have spelling : ∀ letter ∈ spelled, isSpelling letter = true := fun letter inside =>
    isSpelling_of_passes (letters letter inside)
  have stops : inner.place.rest.head?.all (fun letter => !isSpelling letter) = true := by
    cases ahead : inner.place.rest.head? with
    | none => rfl
    | some next =>
        rw [Option.all_some, Bool.not_eq_true']
        refine Bool.eq_false_iff.mpr fun inside => ?_
        have none : ∀ kept, ways tail ⟨inner.place, kept⟩ = [] := fun kept =>
          ways_of_refuses ahead (refuses next inside)
        rw [none] at member
        cases member
  have split : clause = spelled ++ inner.place.rest := rest
  rw [Match.group_of_lookup looked split, split]
  exact (Text.span_append spelling stops).1.symm

/-! ## The counter on the right -/

/-- What follows the end in a condition with the counter on the right. -/
def flippedTail : Pattern :=
  blanks ++ (keep 2 (oneOf ["<=", ">=", "<", ">"]) ++ (blanks ++ (keep 3 sigilName ++ textEnd)))

theorem ways_flippedCondition :
    ways flippedCondition = ways (textStart ++ (keep 1 (few1 inLine) ++ flippedTail)) := by
  simp only [flippedCondition, ways_append_append]
  rfl

/-- Inside an end no sign is found. -/
theorem ways_flippedTail_eq_nil {front back : Text} (bare : Text.Bare (front ++ back))
    (quiet : (front ++ back).all isQuiet = true) (inside : back ≠ []) (before rest : Text)
    (kept : List (Nat × Piece)) : ways flippedTail ⟨⟨before, back ++ rest⟩, kept⟩ = [] := by
  -- The end does not end in a blank, so behind the blanks some other letter of it is left.
  obtain ⟨more, last, split, visible⟩ := bare.back
  have lastInside : last ∈ back := by
    have atEnd := congrArg List.getLast? split
    rw [List.getLast?_append_of_ne_nil _ inside, List.getLast?_concat] at atEnd
    exact List.mem_of_getLast? atEnd
  have left : back.dropWhile isBlank ≠ [] := fun none => by
    rw [List.dropWhile_eq_nil_iff.mp none last lastInside] at visible
    cases visible
  obtain ⟨next, others, behind⟩ := List.exists_cons_of_ne_nil left
  have shown : isBlank next = false := by
    have head := List.head_dropWhile_not isBlank left
    simp only [behind, List.head_cons] at head
    exact head
  have nextInside : next ∈ front ++ back := List.mem_append_right front
    ((List.dropWhile_suffix isBlank).subset (by rw [behind]; exact List.mem_cons_self))
  have unsigned : ∀ mark ∈ ['<', '>'], next ≠ mark := by
    rintro mark isMark rfl
    refine not_mem_of_isQuiet quiet next ?_ nextInside
    simp only [headerMarks, List.mem_cons, List.not_mem_nil, or_false] at isMark ⊢
    tauto
  have noSign : ∀ {letter : Char}, (∀ mark ∈ ['<', '>'], letter ≠ mark) →
      (keep 2 (oneOf ["<=", ">=", "<", ">"]) ++ (blanks ++ (keep 3 sigilName ++ textEnd))).refuses
        letter = true := by
    intro letter others
    simp [refuses, mayStay, mayTake, oneOf, word, others]
  have regrouped : back ++ rest = back.takeWhile isBlank ++ (next :: (others ++ rest)) := by
    rw [← List.cons_append, ← behind, ← List.append_assoc, List.takeWhile_append_dropWhile]
  rw [flippedTail, regrouped, ways_blanks_append List.all_takeWhile (by simpa using shown)]
  · exact ways_of_refuses rfl (noSign unsigned)
  · exact fun letter blank => noSign (ne_of_any (by decide) blank)

theorem exists_find?_flippedCondition (spells : Spells name spelled)
    (isPadded : Text.Padded comparison.sign sign) (different : comparison ≠ .notEqual)
    (bare : Text.Bare limit) (quiet : limit.all isQuiet = true) :
    ∃ found, flippedCondition.find? (limit ++ (sign ++ spelled)) = some found ∧
      found.group 1 = limit ∧ found.group 2 = comparison.sign := by
  have signStops := comparison.head?_sign_append
  have nameStops := spells.bare.head?_all []
  obtain @⟨gap, behind, blankGap, blankBehind⟩ := isPadded
  have noEqual := head?_ne_of_isQuiet blankBehind spells.bare.ne_nil spells.all_isQuiet []
  have signed : ∀ {before : Text} {kept : List (Nat × Piece)}, First (oneOf ["<=", ">=", "<", ">"])
      ⟨⟨before, comparison.sign ++ (behind ++ (spelled ++ []))⟩, kept⟩
      ⟨⟨comparison.sign.reverse ++ before, behind ++ (spelled ++ [])⟩, kept⟩ :=
    comparison.first_sign (List.mem_cons_of_mem _ List.mem_cons_self)
      (by revert different; cases comparison <;> decide) noEqual
  have named := fun before kept => @Spells.first _ _ before [] kept spells rfl
  simp only [List.append_assoc, List.append_nil] at nameStops noEqual signed named ⊢
  have leads : First (textStart ++ (keep 1 (few1 inLine) ++ flippedTail)) ⟨.start _, []⟩ _ :=
    First.textStart.append (First.keep_few1 bare.ne_nil (all_inLine_of_isQuiet quiet)
      (fun front back split inside kept =>
        ways_flippedTail_eq_nil (split ▸ bare) (split ▸ quiet) inside _ _ kept)
      ((first_blanks blankGap (signStops _)).append (signed.keep.append
        ((first_blanks blankBehind nameStops).append ((named _ _).keep.append First.textEnd)))))
  rw [First, ← ways_flippedCondition] at leads
  exact ⟨_, First.find? leads, Match.group_of_lookup rfl rfl, Match.group_of_lookup rfl rfl⟩

/-- What is read behind the sign is all that stands behind the last letter that belongs to no
name. -/
theorem group_three_of_flippedCondition (hit : flippedCondition.find? clause = some found) :
    found.group 3 = clause.rtakeWhile isSpelling := by
  have anchored : Anchored flippedCondition :=
    anchored_textStart.append _ |>.append _ |>.append _ |>.append _ |>.append _ |>.append _
  obtain ⟨there, best, rfl⟩ := anchored.exists_first_of_find? hit
  obtain ⟨_, member, atEnd⟩ := List.mem_flatMap.mp (List.mem_of_mem_head? best)
  obtain ⟨behindSign, reached, keeping⟩ := List.mem_flatMap.mp member
  obtain ⟨inner, named, rfl⟩ := List.mem_map.mp keeping
  obtain ⟨signed, member, spaced⟩ := List.mem_flatMap.mp reached
  obtain ⟨behindEnd, member, signing⟩ := List.mem_flatMap.mp member
  obtain ⟨sign, signRest, signBefore, signLetters⟩ := (Passage.of_mem_ways _ signing).letters
  obtain ⟨gap, _, gapBefore, gapLetters⟩ := (Passage.of_mem_ways _ spaced).letters
  obtain ⟨spelled, rest, _, letters⟩ := (Passage.of_mem_ways _ named).letters
  -- The letters of the sign and the blanks behind it belong to no name.
  have breaks : Breaks (sign ++ gap) := by
    have shorter := @shortens_of_takesLetter (keep 2 (oneOf ["<=", ">=", "<", ">"])) rfl _ _ signing
    refine ⟨?_, fun letter inside => ?_⟩
    · intro nothing
      rw [signRest, (List.append_eq_nil_iff.mp nothing).1] at shorter
      exact absurd shorter (Nat.lt_irrefl _)
    · rcases List.mem_append.mp inside with inSign | inGap
      · refine Bool.eq_false_iff.mpr fun spelling => ?_
        obtain ⟨_, others⟩ := marks_of_isSpelling spelling
        have passed := signLetters letter inSign
        simp [passes, oneOf, word, others] at passed
      · exact not_isSpelling_of_isBlank (gapLetters letter inGap)
  have ended : inner.place.rest = [] := by
    rw [ways] at atEnd
    split at atEnd
    · rename_i empty
      exact List.isEmpty_iff.mp empty
    · cases atEnd
  rw [ended, List.append_nil] at rest
  have spelling : spelled.all isSpelling = true :=
    List.all_eq_true.mpr fun letter inside => isSpelling_of_passes (letters letter inside)
  have whole := Cursor.text_eq_of_le (goesTo_of_mem_ways _ reached).place
  have split : clause = behindEnd.place.before.reverse ++ ((sign ++ gap) ++ spelled) := by
    have text : clause = behindSign.place.before.reverse ++ behindSign.place.rest := whole
    rw [text, gapBefore, signBefore, rest]
    simp
  rw [eq_of_mem_guard atEnd, split, breaks.rtakeWhile_append spelling]
  refine Match.group_of_lookup rfl ?_
  rw [rest, ended, List.append_nil]

end Condition

/-! ## Conditions as they are read -/

namespace IsCondition

variable {counter name limit clause : Text} {comparison : Comparison}

theorem bare (isCondition : IsCondition name comparison limit clause)
    (isEnd : HeaderEnd counter limit) : Text.Bare clause := by
  cases isCondition with
  | straight spells _ => exact spells.bare.append (Text.exists_last_append _ isEnd.bare.back)
  | reversed _ spells _ => exact isEnd.bare.append (Text.exists_last_append _ spells.bare.back)

theorem unsplit (isCondition : IsCondition name comparison limit clause)
    (isEnd : HeaderEnd counter limit) : Text.Unsplit ';' clause := by
  have signs : ∀ comparison : Comparison, Text.Unsplit ';' comparison.sign := fun comparison =>
    Text.unsplit_of (by decide : (brackets ++ [';']).any ['<', '>', '=', '!'].contains = false)
      (by cases comparison <;> decide)
  have ends := Text.unsplit_of_isQuiet isEnd.all_isQuiet
  cases isCondition with
  | straight spells isPadded =>
      exact (Text.unsplit_of_isQuiet spells.all_isQuiet).append
        ((isPadded.unsplit (signs _)).append ends)
  | reversed _ spells isPadded =>
      exact ends.append ((isPadded.unsplit (signs _)).append
        (Text.unsplit_of_isQuiet spells.all_isQuiet))

/-- A condition is read with the counter on whichever side it stands; one on another name is no
condition of the counter. -/
theorem comparisonOf?_eq
    (isCondition : IsCondition name comparison limit clause) (isEnd : HeaderEnd counter limit)
    (isName : Text.isIdentifier counter = true) :
    comparisonOf? clause counter = if name = counter then some (comparison, limit) else none := by
  cases isCondition with
  | @straight spelled sign spells isPadded =>
      obtain ⟨found, hit, isSign, isLimit⟩ :=
        exists_find?_condition spells isPadded isEnd.bare isEnd.all_isQuiet
      have breaks := comparison.breaks_sign.padded isPadded
      have isSpelled : Text.bareName (found.group 1) = name := by
        rw [group_one_of_condition hit, breaks.takeWhile_append spells.all_isSpelling,
          spells.bareName]
      rw [comparisonOf?, hit, Option.filter_some, isSpelled]
      by_cases same : name = counter
      · simp [same, isSign, isLimit]
      · simp only [same, decide_false, Bool.false_eq_true, if_false]
        -- The text may still be read from the right, but not with the counter on that side.
        cases flipped : flippedCondition.find? _ with
        | none => rfl
        | some other =>
            have notCounter := isEnd.bareName_rtakeWhile_ne isName breaks spelled
            rw [← group_three_of_flippedCondition flipped] at notCounter
            simp [notCounter]
  | @reversed spelled sign different spells isPadded =>
      have breaks := comparison.flip.breaks_sign.padded isPadded
      -- The text may be read from the left first, but not with the counter on that side.
      have noCounter : ((condition.find? (limit ++ (sign ++ spelled))).filter fun found =>
          Text.bareName (found.group 1) = counter) = none := by
        refine Option.filter_eq_none_iff.mpr fun found hit => ?_
        rw [group_one_of_condition hit]
        simpa using isEnd.bareName_takeWhile_ne isName breaks _
      obtain ⟨found, hit, isLimit, isSign⟩ := exists_find?_flippedCondition spells isPadded
        (by revert different; cases comparison <;> decide) isEnd.bare isEnd.all_isQuiet
      have isSpelled : Text.bareName (found.group 3) = name := by
        rw [group_three_of_flippedCondition hit, breaks.rtakeWhile_append spells.all_isSpelling,
          spells.bareName]
      rw [comparisonOf?, noCounter, hit]
      by_cases same : name = counter
      · simp [isSpelled, isSign, isLimit, same]
      · simp [isSpelled, same]

end IsCondition

end InputDemand
