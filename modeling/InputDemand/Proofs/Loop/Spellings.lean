import InputDemand.Proofs.Loop.Range
import Mathlib.Data.List.DropRight

/-!
# Names and ends as headers spell them

A counter starts at a number, at a name, or at a name moved by a number, and is compared with such
an end.  A name may carry a dollar sign.  None of the characters in these spellings has a meaning of
its own in a header, and the runs of name characters at the two sides of an end tell it from the
counter.
-/

namespace InputDemand

/-! ## Characters -/

/-- Letters of a name, and the sign in front of it. -/
def isSpelling (letter : Char) : Bool :=
  isWord letter || letter = '$'

theorem isWord_of_isNameStart {letter : Char} (starts : isNameStart letter = true) :
    isWord letter = true :=
  test_of_isNameLetter (by decide +kernel) (Text.isNameLetter_of_isNameStart starts)

theorem isSpelling_of_isWord {letter : Char} (word : isWord letter = true) :
    isSpelling letter = true := by
  rw [isSpelling, word, Bool.true_or]

theorem not_isSpelling_of_isBlank {letter : Char} (blank : isBlank letter = true) :
    isSpelling letter = false := by
  refine Bool.eq_false_iff.mpr fun spelling => ?_
  rw [isSpelling, Bool.or_eq_true, decide_eq_true_eq] at spelling
  rcases spelling with word | rfl
  · rw [not_isBlank_of_isWord word] at blank
    cases blank
  · cases blank

theorem ne_of_any {keep : Char → Bool} {marks : List Char} (free : marks.any keep = false)
    {letter : Char} (kept : keep letter = true) : ∀ mark ∈ marks, letter ≠ mark := by
  rintro mark isMark rfl
  exact List.any_eq_false.mp free letter isMark kept

theorem marks_of_isSpelling {letter : Char} (spelling : isSpelling letter = true) :
    isBlank letter = false ∧ ∀ mark ∈ ['<', '>', '!', '='], letter ≠ mark := by
  refine ⟨Bool.eq_false_iff.mpr fun blank => ?_, ne_of_any (by decide +kernel) spelling⟩
  rw [not_isSpelling_of_isBlank blank] at spelling
  cases spelling

/-- The signs between the pieces of a header, and the end of a line. -/
def headerMarks : List Char :=
  [';', '<', '>', '=', '!', '\n']

/-- Letters that stay on their line and neither compare, assign, separate nor enclose. -/
def isQuiet (letter : Char) : Bool :=
  isUnbracketed letter && !headerMarks.contains letter

theorem not_mem_of_isQuiet {text : Text} (quiet : text.all isQuiet = true) :
    ∀ mark ∈ headerMarks, mark ∉ text := by
  intro mark isMark member
  obtain ⟨_, unmarked⟩ := Bool.and_eq_true_iff.mp (List.all_eq_true.mp quiet mark member)
  rw [List.contains_iff_mem.mpr isMark] at unmarked
  cases unmarked

theorem isQuiet_of {keep : Char → Bool} (free : (brackets ++ headerMarks).any keep = false)
    {letter : Char} (kept : keep letter = true) : isQuiet letter = true := by
  obtain ⟨unbracketed, unlisted⟩ := unmarked_of free kept
  simp [isQuiet, unbracketed, unlisted]

theorem Text.unsplit_of {keep : Char → Bool} (free : (brackets ++ [';']).any keep = false)
    {text : Text} (kept : text.all keep = true) : Text.Unsplit ';' text := fun _ _ _ => by
  refine Text.splitOutsideFrom_append (List.all_eq_true.mpr fun letter member => ?_)
  obtain ⟨unbracketed, unlisted⟩ := unmarked_of free (List.all_eq_true.mp kept letter member)
  rw [List.mem_singleton] at unlisted
  rw [unbracketed, Bool.true_and, bne_iff_ne]
  exact unlisted

theorem Text.unsplit_of_isQuiet {text : Text} (quiet : text.all isQuiet = true) :
    Text.Unsplit ';' text :=
  Text.unsplit_of (by decide) quiet

theorem isQuiet_of_isSpelling {letter : Char} (spelling : isSpelling letter = true) :
    isQuiet letter = true :=
  isQuiet_of (by decide +kernel) spelling

theorem Text.all_isQuiet_of_digits {digits : Text} {amount : Nat}
    (read : Text.digitsValue? digits = some amount) : digits.all isQuiet = true :=
  List.all_eq_true.mpr fun letter member =>
    isQuiet_of (by decide) ((Text.all_isDigit_of_digitsValue? read).2 letter member)

theorem Text.all_isQuiet_of_blank {gap : Text} (blankGap : Text.blank gap = true)
    (onLine : '\n' ∉ gap) : gap.all isQuiet = true := by
  refine List.all_eq_true.mpr fun letter member => ?_
  refine @isQuiet_of (fun letter => isBlank letter && letter != '\n') (by decide +kernel) letter ?_
  rw [List.all_eq_true.mp blankGap letter member, Bool.true_and, bne_iff_ne]
  rintro rfl
  exact onLine member

/-- A text with blanks on its sides. -/
inductive Text.Padded (text : Text) : Text → Prop
  | of_blank {front back : Text} : Text.blank front = true → Text.blank back = true →
      Padded text (front ++ (text ++ back))

theorem Text.Padded.trim_eq {text padded : Text} (isPadded : Text.Padded text padded) :
    Text.trim padded = Text.trim text := by
  obtain ⟨blankFront, blankBack⟩ := isPadded
  exact Text.trim_padded blankFront blankBack text

theorem Text.Padded.unsplit {text padded : Text} (isPadded : Text.Padded text padded)
    (unsplit : Text.Unsplit ';' text) : Text.Unsplit ';' padded := by
  obtain ⟨blankFront, blankBack⟩ := isPadded
  exact (Text.unsplit_of (by decide +kernel) blankFront).append
    (unsplit.append (Text.unsplit_of (by decide +kernel) blankBack))

theorem Text.Bare.append {text other : Text} (bare : Text.Bare text)
    (ends : ∃ more last, other = more ++ [last] ∧ isBlank last = false) :
    Text.Bare (text ++ other) := by
  obtain ⟨⟨first, more, rfl, visible, noBracket⟩, _⟩ := bare
  exact ⟨⟨first, more ++ other, rfl, visible, noBracket⟩, Text.exists_last_append _ ends⟩

/-- A text of letters that belong to no name, at least one of them. -/
structure Breaks (text : Text) : Prop where
  nonempty : text ≠ []
  letters : ∀ letter ∈ text, isSpelling letter = false

namespace Breaks

variable {front stops text rest : Text}

theorem of_any (nonempty : text ≠ []) (unspelled : text.any isSpelling = false) : Breaks text :=
  ⟨nonempty, fun letter member =>
    Bool.eq_false_iff.mpr (List.any_eq_false.mp unspelled letter member)⟩

theorem padded {padded : Text} (breaks : Breaks text) (isPadded : Text.Padded text padded) :
    Breaks padded := by
  obtain ⟨blankFront, blankBack⟩ := isPadded
  refine ⟨by simp [breaks.nonempty], fun letter member => ?_⟩
  rcases List.mem_append.mp member with inFront | member
  · exact not_isSpelling_of_isBlank (List.all_eq_true.mp blankFront letter inFront)
  · rcases List.mem_append.mp member with inside | inBack
    · exact breaks.letters letter inside
    · exact not_isSpelling_of_isBlank (List.all_eq_true.mp blankBack letter inBack)

theorem head?_all (breaks : Breaks stops) (rest : Text) :
    (stops ++ rest).head?.all (fun letter => !isWord letter) = true := by
  obtain ⟨first, more, rfl⟩ := List.exists_cons_of_ne_nil breaks.nonempty
  have stop := breaks.letters first List.mem_cons_self
  rw [isSpelling, Bool.or_eq_false_iff] at stop
  simpa using stop.1

theorem takeWhile_append (breaks : Breaks stops) (spelling : text.all isSpelling = true)
    (rest : Text) : (text ++ (stops ++ rest)).takeWhile isSpelling = text := by
  obtain ⟨first, more, rfl⟩ := List.exists_cons_of_ne_nil breaks.nonempty
  have stop := breaks.letters first List.mem_cons_self
  exact (Text.span_append (List.all_eq_true.mp spelling) (by simpa using stop)).1

theorem rtakeWhile_append (breaks : Breaks stops) (spelling : text.all isSpelling = true)
    (front : Text) : (front ++ (stops ++ text)).rtakeWhile isSpelling = text := by
  have reversed : Breaks stops.reverse :=
    ⟨by simpa using breaks.nonempty, by simpa using breaks.letters⟩
  have spelled : text.reverse.all isSpelling = true := by
    rw [List.all_reverse]
    exact spelling
  have taken := reversed.takeWhile_append spelled front.reverse
  rw [List.rtakeWhile, List.reverse_append, List.reverse_append, List.append_assoc, taken,
    List.reverse_reverse]

end Breaks

/-! ## Names -/

/-- A name with a dollar sign in front, or without one. -/
inductive Spells (name : Text) : Text → Prop
  | of_sigil {sigil : Text} : sigil ∈ sigils → Text.isIdentifier name = true →
      Spells name (sigil ++ name)

namespace Spells

variable {name text rest : Text}

theorem isIdentifier (spells : Spells name text) : Text.isIdentifier name = true := by
  obtain ⟨_, isName⟩ := spells
  exact isName

theorem bare (spells : Spells name text) : Text.Bare text := by
  obtain ⟨isSigil, isName⟩ := spells
  exact Text.bare_identifier isSigil isName

theorem all_isSpelling (spells : Spells name text) : text.all isSpelling = true := by
  obtain ⟨isSigil, isName⟩ := spells
  have letters := Text.all_isWord_of_isIdentifier isName
  rw [List.all_append, Bool.and_eq_true]
  refine ⟨?_, List.all_eq_true.mpr fun letter member =>
    isSpelling_of_isWord (List.all_eq_true.mp letters letter member)⟩
  simp only [sigils, List.mem_cons, List.not_mem_nil, or_false] at isSigil
  rcases isSigil with rfl | rfl <;> decide

theorem all_isQuiet (spells : Spells name text) : text.all isQuiet = true :=
  List.all_eq_true.mpr fun letter member =>
    isQuiet_of_isSpelling (List.all_eq_true.mp spells.all_isSpelling letter member)

theorem bareName (spells : Spells name text) : Text.bareName text = name := by
  obtain ⟨isSigil, isName⟩ := spells
  have kept : name.all (fun letter => !decide (letter = '$')) = true :=
    List.all_eq_true.mpr fun letter member => by
      have word := List.all_eq_true.mp (Text.all_isWord_of_isIdentifier isName) letter member
      rw [Bool.not_eq_true', decide_eq_false_iff_not]
      rintro rfl
      exact absurd word (by decide +kernel)
  simp only [sigils, List.mem_cons, List.not_mem_nil, or_false] at isSigil
  rcases isSigil with rfl | rfl
  · exact Text.dropWhile_eq_self kept
  · exact Text.dropWhile_eq_self kept

theorem readName? (spells : Spells name text)
    (stops : rest.head?.all (fun letter => !isWord letter) = true) :
    Text.readName? (text ++ rest) = some (name, rest) := by
  obtain ⟨isSigil, isName⟩ := spells
  rw [List.append_assoc]
  exact Text.readName?_identifier isSigil isName stops

end Spells

theorem bareName_ne_of_digit {name more : Text} {first : Char} (digit : first.isDigit = true)
    (isName : Text.isIdentifier name = true) : Text.bareName (first :: more) ≠ name := by
  have noDollar : first ≠ '$' := by
    rintro rfl
    cases digit
  rw [Text.bareName, Text.trimLeftBy, List.dropWhile_cons_of_neg (by simpa using noDollar)]
  rintro rfl
  obtain ⟨starts, _⟩ := Bool.and_eq_true_iff.mp isName
  rw [isNameStart_of_isDigit digit] at starts
  cases starts

/-! ## Ends -/

/-- The ends of a header that counts by a certain counter: a number, another name, or another name
with a number added or subtracted. -/
inductive HeaderEnd (counter : Text) : Text → Prop
  | number {text : Text} {value : Int} : Text.signed? text = some value → HeaderEnd counter text
  | name {name text : Text} : Spells name text → name ≠ counter → HeaderEnd counter text
  | moved {name text sign move digits : Text} {value : Int} : Spells name text → name ≠ counter →
      sign ∈ [['+'], ['-']] → Text.Padded sign move → '\n' ∉ move →
      Text.signed? digits = some value → HeaderEnd counter (text ++ (move ++ digits))

/-- A number is made of digits, perhaps behind a sign. -/
theorem Text.exists_digits_of_signed? {text : Text} {value : Int}
    (read : Text.signed? text = some value) :
    ∃ sign digits amount, text = sign ++ digits ∧ sign ∈ [[], ['+'], ['-']] ∧
      Text.digitsValue? digits = some amount := by
  unfold Text.signed? at read
  split at read
  · obtain ⟨amount, digits, _⟩ := Option.bind_eq_some_iff.mp read
    exact ⟨['-'], _, amount, rfl, by decide, digits⟩
  · obtain ⟨amount, digits, _⟩ := Option.bind_eq_some_iff.mp read
    exact ⟨['+'], _, amount, rfl, by decide, digits⟩
  · obtain ⟨amount, digits, _⟩ := Option.bind_eq_some_iff.mp read
    exact ⟨[], _, amount, rfl, by decide, digits⟩

theorem Text.bare_of_signed? {text : Text} {value : Int}
    (read : Text.signed? text = some value) : Text.Bare text := by
  obtain ⟨sign, digits, amount, rfl, isSign, digitsRead⟩ := Text.exists_digits_of_signed? read
  have ends := Text.exists_last_append sign (Text.exists_last_digits digitsRead)
  simp only [List.mem_cons, List.not_mem_nil, or_false] at isSign
  rcases isSign with rfl | rfl | rfl
  · exact Text.bare_digits digitsRead
  · exact ⟨⟨'+', digits, rfl, by decide, by decide⟩, ends⟩
  · exact ⟨⟨'-', digits, rfl, by decide, by decide⟩, ends⟩

theorem Text.all_isQuiet_of_signed? {text : Text} {value : Int}
    (read : Text.signed? text = some value) : text.all isQuiet = true := by
  obtain ⟨sign, digits, amount, rfl, isSign, digitsRead⟩ := Text.exists_digits_of_signed? read
  rw [List.all_append, Text.all_isQuiet_of_digits digitsRead, Bool.and_true]
  simp only [List.mem_cons, List.not_mem_nil, or_false] at isSign
  rcases isSign with rfl | rfl | rfl <;> decide

/-- Behind a letter that belongs to no name, a number ends in digits that no name takes in. -/
theorem Breaks.bareName_rtakeWhile_ne {stops text name : Text} {value : Int}
    (breaks : Breaks stops) (read : Text.signed? text = some value)
    (isName : Text.isIdentifier name = true) (front : Text) :
    Text.bareName ((front ++ (stops ++ text)).rtakeWhile isSpelling) ≠ name := by
  obtain ⟨sign, digits, amount, rfl, isSign, digitsRead⟩ := Text.exists_digits_of_signed? read
  obtain ⟨first, more, split, digit, _⟩ := Text.exists_first_digit digitsRead
  have spelling : digits.all isSpelling = true := List.all_eq_true.mpr fun letter member =>
    isSpelling_of_isWord
      (Text.isWord_of_isDigit ((Text.all_isDigit_of_digitsValue? digitsRead).2 letter member))
  have signed : Breaks (stops ++ sign) := by
    refine ⟨by simp [breaks.nonempty], fun letter member => ?_⟩
    rcases List.mem_append.mp member with inStops | inSign
    · exact breaks.letters letter inStops
    · have unspelled : [[], ['+'], ['-']].all (fun sign => !sign.any isSpelling) = true := by
        decide +kernel
      have noneSpelled := List.all_eq_true.mp unspelled sign isSign
      rw [Bool.not_eq_true'] at noneSpelled
      exact Bool.eq_false_iff.mpr (List.any_eq_false.mp noneSpelled letter inSign)
  rw [← List.append_assoc stops, signed.rtakeWhile_append spelling front, split]
  exact bareName_ne_of_digit digit isName

/-- A sign between a name and a number belongs to neither. -/
theorem Breaks.of_move {sign move : Text} (isSign : sign ∈ [['+'], ['-']])
    (isPadded : Text.Padded sign move) : Breaks move := by
  refine Breaks.padded ?_ isPadded
  simp only [List.mem_cons, List.not_mem_nil, or_false] at isSign
  rcases isSign with rfl | rfl
  · exact Breaks.of_any (by decide) (by decide +kernel)
  · exact Breaks.of_any (by decide) (by decide +kernel)

namespace HeaderEnd

variable {counter text : Text}

theorem bare (isEnd : HeaderEnd counter text) : Text.Bare text := by
  cases isEnd with
  | number read => exact Text.bare_of_signed? read
  | name spells _ => exact spells.bare
  | moved spells _ _ _ _ read =>
      exact spells.bare.append (Text.exists_last_append _ (Text.bare_of_signed? read).back)

theorem all_isQuiet (isEnd : HeaderEnd counter text) : text.all isQuiet = true := by
  cases isEnd with
  | number read => exact Text.all_isQuiet_of_signed? read
  | name spells _ => exact spells.all_isQuiet
  | moved spells _ isSign isPadded onLine read =>
      obtain ⟨blankFront, blankBack⟩ := isPadded
      simp only [List.mem_append, not_or] at onLine
      rw [List.all_append, List.all_append, List.all_append, List.all_append, spells.all_isQuiet,
        Text.all_isQuiet_of_blank blankFront onLine.1,
        Text.all_isQuiet_of_blank blankBack onLine.2.2, Text.all_isQuiet_of_signed? read]
      simp only [List.mem_cons, List.not_mem_nil, or_false] at isSign
      rcases isSign with rfl | rfl <;> decide

/-- The name at the front of an end is not that of the counter. -/
theorem bareName_takeWhile_ne {stops : Text} (isEnd : HeaderEnd counter text)
    (isName : Text.isIdentifier counter = true) (breaks : Breaks stops) (rest : Text) :
    Text.bareName ((text ++ (stops ++ rest)).takeWhile isSpelling) ≠ counter := by
  cases isEnd with
  | number read =>
      obtain ⟨sign, digits, amount, rfl, isSign, digitsRead⟩ := Text.exists_digits_of_signed? read
      simp only [List.mem_cons, List.not_mem_nil, or_false] at isSign
      rcases isSign with rfl | rfl | rfl
      · obtain ⟨first, more, rfl, digit, _⟩ := Text.exists_first_digit digitsRead
        have spelling := isSpelling_of_isWord (Text.isWord_of_isDigit digit)
        rw [List.nil_append, List.cons_append, List.takeWhile_cons_of_pos spelling]
        exact bareName_ne_of_digit digit isName
      · rintro rfl
        cases isName
      · rintro rfl
        cases isName
  | name spells different =>
      rw [breaks.takeWhile_append spells.all_isSpelling, spells.bareName]
      exact different
  | moved spells different isSign isPadded _ _ =>
      rw [List.append_assoc, List.append_assoc,
        (Breaks.of_move isSign isPadded).takeWhile_append spells.all_isSpelling, spells.bareName]
      exact different

/-- The name at the back of an end is not that of the counter. -/
theorem bareName_rtakeWhile_ne {stops : Text} (isEnd : HeaderEnd counter text)
    (isName : Text.isIdentifier counter = true) (breaks : Breaks stops) (front : Text) :
    Text.bareName ((front ++ (stops ++ text)).rtakeWhile isSpelling) ≠ counter := by
  cases isEnd with
  | number read => exact breaks.bareName_rtakeWhile_ne read isName front
  | name spells different =>
      rw [breaks.rtakeWhile_append spells.all_isSpelling, spells.bareName]
      exact different
  | @moved name text _ _ _ _ _ _ isSign isPadded _ read =>
      rw [← List.append_assoc stops text, ← List.append_assoc front]
      exact (Breaks.of_move isSign isPadded).bareName_rtakeWhile_ne read isName _

end HeaderEnd

end InputDemand
