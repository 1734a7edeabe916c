import InputDemand.Text.CharClass

/-!
# Names

A name is made of ASCII letters, digits and underscores.  What holds of these few characters holds
wherever a name stands: it is one run of word characters without a blank, a bracket or a sign.
-/

namespace InputDemand

def isNameLetter (letter : Char) : Bool :=
  letter.isAlphanum || letter = '_'

/-- Whether all characters of names pass a test. -/
def passedByNames (test : Char → Bool) : Bool :=
  (List.range 128).all fun code => !isNameLetter (Char.ofNat code) || test (Char.ofNat code)

theorem toNat_lt_of_isNameLetter {letter : Char} (named : isNameLetter letter = true) :
    letter.toNat < 128 := by
  have ranges : (decide ('A'.val ≤ letter.val ∧ letter.val ≤ 'Z'.val) ||
      decide ('a'.val ≤ letter.val) && decide (letter.val ≤ 'z'.val) ||
      decide ('0'.val ≤ letter.val) && decide (letter.val ≤ '9'.val) ||
      decide (letter = '_')) = true := named
  simp only [Bool.or_eq_true, Bool.and_eq_true, decide_eq_true_eq] at ranges
  rcases ranges with ((⟨_, upTo⟩ | ⟨_, upTo⟩) | ⟨_, upTo⟩) | rfl
  · exact Nat.lt_of_le_of_lt (UInt32.le_iff_toNat_le.mp upTo) (by decide)
  · exact Nat.lt_of_le_of_lt (UInt32.le_iff_toNat_le.mp upTo) (by decide)
  · exact Nat.lt_of_le_of_lt (UInt32.le_iff_toNat_le.mp upTo) (by decide)
  · decide

theorem test_of_isNameLetter {test : Char → Bool} (passed : passedByNames test = true)
    {letter : Char} (named : isNameLetter letter = true) : test letter = true := by
  -- Name letters have small codes, so one table tells the test for all of them.
  have small : letter.toNat ∈ List.range 128 :=
    List.mem_range.mpr (toNat_lt_of_isNameLetter named)
  have tested := List.all_eq_true.mp passed letter.toNat small
  rw [Char.ofNat_toNat, named] at tested
  exact tested

namespace Text

variable {name : Text}

theorem all_isNameLetter (isName : Text.isName name = true) : name.all isNameLetter = true := by
  cases name with
  | nil => cases isName
  | cons first more =>
      simp only [Text.isName, Bool.and_eq_true] at isName
      rw [List.all_cons, Bool.and_eq_true]
      refine ⟨?_, isName.2⟩
      have starts := isName.1
      simp only [isNameStart, isNameLetter, Char.isAlphanum, Bool.or_eq_true] at starts ⊢
      rcases starts with alphabetic | underscore
      · exact Or.inl (Or.inl alphabetic)
      · exact Or.inr underscore

theorem all_of_isName {test : Char → Bool} (passed : passedByNames test = true)
    (isName : Text.isName name = true) : name.all test = true := by
  apply List.all_eq_true.mpr
  intro letter member
  have named := List.all_eq_true.mp (all_isNameLetter isName) letter member
  exact test_of_isNameLetter passed named

theorem exists_cons_of_isName (isName : Text.isName name = true) :
    ∃ first more, name = first :: more ∧ isNameStart first = true ∧ isNameLetter first = true := by
  have letters := all_isNameLetter isName
  cases name with
  | nil => cases isName
  | cons first more =>
      simp only [Text.isName, Bool.and_eq_true] at isName
      simp only [List.all_cons, Bool.and_eq_true] at letters
      exact ⟨first, more, rfl, isName.1, letters.1⟩

/-- Whether a text is a name as expressions have it: an ASCII letter or underscore, and word characters
of any script behind it. -/
def isIdentifier : Text → Bool
  | [] => false
  | first :: more => isNameStart first && more.all isWord

theorem isWord_of_isName (isName : Text.isName name = true) : name.all isWord = true :=
  all_of_isName (by decide +kernel) isName

theorem isIdentifier_of_isName (isName : Text.isName name = true) : isIdentifier name = true := by
  have words := isWord_of_isName isName
  obtain ⟨first, more, rfl, starts, _⟩ := exists_cons_of_isName isName
  rw [List.all_cons, Bool.and_eq_true] at words
  rw [isIdentifier, starts, words.2]
  rfl

theorem isNameLetter_of_isNameStart {letter : Char} (starts : isNameStart letter = true) :
    isNameLetter letter = true := by
  simp only [isNameStart, isNameLetter, Char.isAlphanum, Bool.or_eq_true] at starts ⊢
  rcases starts with alphabetic | underscore
  · exact Or.inl (Or.inl alphabetic)
  · exact Or.inr underscore

theorem exists_cons_of_isIdentifier (isName : isIdentifier name = true) :
    ∃ first more, name = first :: more ∧ isNameStart first = true ∧ more.all isWord = true := by
  cases name with
  | nil => cases isName
  | cons first more =>
      obtain ⟨starts, words⟩ := Bool.and_eq_true_iff.mp isName
      exact ⟨first, more, rfl, starts, words⟩

theorem all_isWord_of_isIdentifier (isName : isIdentifier name = true) :
    name.all isWord = true := by
  obtain ⟨first, more, rfl, starts, words⟩ := exists_cons_of_isIdentifier isName
  have first : isWord first = true :=
    test_of_isNameLetter (by decide +kernel) (isNameLetter_of_isNameStart starts)
  rw [List.all_cons, first, words]
  rfl

theorem not_isBlank_of_isName (isName : Text.isName name = true) :
    name.all (fun letter => !isBlank letter) = true :=
  all_of_isName (by decide +kernel) isName

theorem dropWhile_eq_self {letters : List Char} {skip : Char → Bool}
    (kept : letters.all (fun letter => !skip letter) = true) :
    letters.dropWhile skip = letters := by
  cases letters with
  | nil => rfl
  | cons first more =>
      rw [List.all_cons, Bool.and_eq_true, Bool.not_eq_true'] at kept
      rw [List.dropWhile_cons, kept.1]
      rfl

/-- A run of letters ends in front of the first that does not belong to it. -/
theorem span_append {keep : Char → Bool} {front rest : List Char}
    (kept : ∀ letter ∈ front, keep letter = true)
    (stops : rest.head?.all (fun letter => !keep letter) = true) :
    (front ++ rest).takeWhile keep = front ∧ (front ++ rest).dropWhile keep = rest := by
  rw [List.takeWhile_append_of_pos kept, List.dropWhile_append_of_pos kept]
  cases rest with
  | nil => exact ⟨List.append_nil front, rfl⟩
  | cons letter rest =>
      have stop : keep letter = false := by simpa using stops
      rw [List.takeWhile_cons, List.dropWhile_cons, stop]
      exact ⟨List.append_nil front, rfl⟩

theorem trim_eq_self {text : Text} (visible : text.all (fun letter => !isBlank letter) = true) :
    trim text = text := by
  have reversed : text.reverse.all (fun letter => !isBlank letter) = true := by
    rw [List.all_reverse]
    exact visible
  rw [trim, trimLeftBy, trimRightBy, dropWhile_eq_self visible, dropWhile_eq_self reversed,
    List.reverse_reverse]

end Text

end InputDemand
