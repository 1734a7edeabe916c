import InputDemand.Loop.Collection
import InputDemand.Proofs.Loop.Spellings
import InputDemand.Proofs.Pattern.Covers
import InputDemand.Proofs.Pattern.Ways
import Mathlib.Data.List.Forall2

/-!
# Declarations of collections

A declaration is a row of tokens with blanks between them.  There are six forms of it: an array is
allocated, a slice is made, a list is repeated, an array is given its size behind a basic type or
behind the word that introduces it, or elements are listed.  A form is recognised at a place if and
only if a declaration of that form stands there.
-/

namespace InputDemand

open Pattern

/-! ## Tokens -/

/-- Tokens in a row, with blanks between them. -/
inductive Text.Spaced : List Text → Text → Prop
  | nil : Spaced [] []
  | single (token : Text) : Spaced [token] token
  | cons {token second gap rest : Text} {tokens : List Text} : Text.blank gap = true →
      Spaced (second :: tokens) rest → Spaced (token :: second :: tokens) (token ++ (gap ++ rest))

@[simp]
theorem Text.spaced_singleton {token text : Text} : Spaced [token] text ↔ text = token := by
  constructor
  · rintro ⟨⟩
    rfl
  · rintro rfl
    exact .single text

@[simp]
theorem Text.spaced_cons_cons {token second text : Text} {tokens : List Text} :
    Spaced (token :: second :: tokens) text ↔
      ∃ gap rest, blank gap = true ∧ Spaced (second :: tokens) rest ∧
        text = token ++ (gap ++ rest) := by
  constructor
  · intro row
    cases row with
    | cons blankGap row => exact ⟨_, _, blankGap, row, rfl⟩
  · rintro ⟨gap, rest, blankGap, row, rfl⟩
    exact .cons blankGap row

/-- Patterns in a row, with blanks between them. -/
def Pattern.spaced : List Pattern → Pattern
  | [] => nothing
  | [pattern] => pattern
  | pattern :: patterns => pattern ++ (blanks ++ spaced patterns)

theorem Pattern.covers_blanks {text : Text} : blanks.Covers text ↔ Text.blank text = true :=
  covers_many_letter

theorem Pattern.covers_spaced {patterns : List Pattern} {text : Text} :
    (spaced patterns).Covers text ↔
      ∃ tokens, List.Forall₂ Covers patterns tokens ∧ Text.Spaced tokens text := by
  induction patterns generalizing text with
  | nil =>
      constructor
      · rintro rfl
        exact ⟨[], .nil, .nil⟩
      · rintro ⟨tokens, none, row⟩
        cases none
        cases row
        rfl
  | cons pattern patterns inductionHypothesis =>
      cases patterns with
      | nil =>
          constructor
          · exact fun covers => ⟨[text], .cons covers .nil, .single text⟩
          · rintro ⟨tokens, only, row⟩
            cases only with
            | cons covers none =>
                cases none
                cases row
                exact covers
      | cons second patterns =>
          constructor
          · rintro ⟨token, _, covers, ⟨gap, rest, blankGap, further, rfl⟩, rfl⟩
            obtain ⟨tokens, others, row⟩ := inductionHypothesis.mp further
            cases others with
            | cons coversSecond others =>
                exact ⟨_, .cons covers (.cons coversSecond others),
                  .cons (covers_blanks.mp blankGap) row⟩
          · rintro ⟨tokens, all, row⟩
            obtain ⟨token, _, covers, others, rfl⟩ := List.forall₂_cons_left_iff.mp all
            obtain ⟨next, more, coversSecond, _, rfl⟩ := List.forall₂_cons_left_iff.mp others
            obtain ⟨gap, rest, blankGap, further, rfl⟩ := Text.spaced_cons_cons.mp row
            exact ⟨_, _, covers, ⟨_, _, covers_blanks.mpr blankGap,
              inductionHypothesis.mpr ⟨_, others, further⟩, rfl⟩, rfl⟩

/-! ## Declarations -/

/-- What a declaration states: the text of a size, or where a list of elements opens. -/
inductive Declaration where
  /-- An array allocation, as in `xs = new T[size]`. -/
  | allocated (size : Text)
  /-- A slice allocation, as in `xs := make([]T, size)`. -/
  | made (size : Text)
  /-- A repeated list, as in `xs = [items] * size`. -/
  | repeated (items size : Text)
  /-- An array of a basic type, as in `int xs[size]`. -/
  | array (size : Text)
  /-- An array introduced by a word, as in `var xs [size]T`. -/
  | introduced (size : Text)
  /-- A list of elements, as in `xs: T = maker(`. -/
  | listed (sign : Text) (maker : List Text) (opening : Char)

/-- The forms of declarations, in the order in which they are looked for. -/
inductive Declaration.Form where
  | allocated
  | made
  | repeated
  | array
  | introduced
  | listed
deriving DecidableEq, Repr

namespace Declaration

def Form.rank : Form → Nat
  | allocated => 0
  | made => 1
  | repeated => 2
  | array => 3
  | introduced => 4
  | listed => 5

def form : Declaration → Form
  | allocated _ => .allocated
  | made _ => .made
  | repeated _ _ => .repeated
  | array _ => .array
  | introduced _ => .introduced
  | listed _ _ _ => .listed

/-- The letters of a type that is allocated. -/
def isTypeLetter (letter : Char) : Bool :=
  isWord letter || "<>.".toList.contains letter

/-- The letters of a type behind square brackets. -/
def isPathLetter (letter : Char) : Bool :=
  isWord letter || letter = '.'

/-- A run of letters of a class. -/
def IsRun (isInner : Char → Bool) (run : Text) : Prop :=
  run ≠ [] ∧ run.all isInner = true

/-- A text that does not stop in front of any of these marks. -/
def Avoids (marks : List Char) (text : Text) : Prop :=
  ∀ mark ∈ marks, mark ∉ text

def basicTypes : List Text :=
  ["int", "char", "float", "double", "long", "short", "bool", "string", "auto",
    "unsigned"].map String.toList

/-- Square brackets behind a name, with blanks and perhaps more in them, or nothing. -/
inductive IsIndex (isInner : Text → Prop) : Text → Prop
  | none : IsIndex isInner []
  | brackets {gap inner : Text} : Text.blank gap = true → isInner inner →
      IsIndex isInner ('[' :: (gap ++ (inner ++ [']'])))

/-- A word, perhaps the empty one, with blanks behind it. -/
def IsLength (text : Text) : Prop :=
  ∃ word gap, word.all isWord = true ∧ Text.blank gap = true ∧ text = word ++ gap

def assignments : List Text :=
  [[':', '='], ['='], ['<', '-']]

/-- A sign of assignment, perhaps with a type behind a colon in front of it on the same line. -/
inductive IsSign (assignment : Text) : Text → Prop
  | plain : IsSign assignment assignment
  | annotated {type : Text} : type ≠ [] → Avoids ['=', '\n'] type →
      IsSign assignment (':' :: (type ++ assignment))

/-- What may stand in front of the bracket that opens a list. -/
inductive IsMaker : List Text → Prop
  | none : IsMaker []
  | word {maker : Text} :
      maker ∈ ["array", "c", "list", "Arrays.asList", "List.of"].map String.toList →
      IsMaker [maker]
  | allocation {space : Char} {type : Text} : isBlank space = true → IsRun isTypeLetter type →
      IsMaker ["new".toList ++ [space], type, ['['], [']']]
  | composite {digits type : Text} : digits.all isDecimal = true → IsRun isPathLetter type →
      IsMaker [['['], digits, ']' :: type]

/-- The tokens of a declaration of a name. -/
inductive Writes (name : Text) : Declaration → List Text → Prop
  | allocated {index sign type size : Text} {space : Char} : IsIndex (· = []) index →
      IsSign ['='] sign → isBlank space = true → IsRun isTypeLetter type →
      size ≠ [] → Avoids [']'] size →
      Writes name (.allocated size)
        [name, index, sign, "new".toList ++ [space], type, '[' :: (size ++ [']'])]
  | made {sign type size : Text} : sign ∈ [[':', '='], ['=']] → IsRun isPathLetter type →
      size ≠ [] → Avoids [',', ')'] size →
      Writes name (.made size)
        [name, sign, "make".toList, ['('], '[' :: ']' :: type, [','], size]
  | repeated {items size : Text} : Avoids [']'] items → IsRun isWord size →
      Writes name (.repeated items size) [name, ['='], '[' :: (items ++ [']']), ['*'], size]
  | array {type size : Text} {space : Char} : type ∈ basicTypes → isBlank space = true →
      size ≠ [] → Avoids [']'] size →
      Writes name (.array size) [type ++ [space], name, '[' :: (size ++ [']'])]
  | introduced {size brackets : Text} {space second : Char} : isBlank space = true →
      isBlank second = true → IsRun isWord size → Text.Spaced [['['], size, [']']] brackets →
      Writes name (.introduced size) ["var".toList ++ [space], name ++ [second], brackets]
  | listed {index assignment sign opened : Text} {maker : List Text} {opening : Char} :
      IsIndex IsLength index →
      assignment ∈ assignments → IsSign assignment sign → IsMaker maker →
      opening ∈ ['[', '(', '\x7b'] → Text.Spaced (maker ++ [[opening]]) opened →
      Writes name (.listed sign maker opening) [name, index, sign, opened]

/-- A declaration of a name stands between two texts, and does not start within a word. -/
structure Stands (name : Text) (declaration : Declaration) (front rest tail : Text) : Prop where
  edge : front.getLast?.all (fun letter => !isWord letter) = true
  written : ∃ tokens text, Writes name declaration tokens ∧ Text.Spaced tokens text ∧
    rest = text ++ tail

/-! ## Patterns of declarations -/

/-- The patterns of the tokens that may stand in front of the bracket that opens a list. -/
def makers : List (List Pattern) := [
  ["new" ++ blank, some1 (letter isTypeLetter), "[", "]"],
  ["[", many (letter isDecimal), "]" ++ some1 (letter isPathLetter)],
  ["array"], ["c"], ["list"], ["Arrays.asList"], ["List.of"]]

/-- The patterns of what may stand in front of the bracket, with the blanks behind it. -/
def makerPatterns : List Pattern :=
  makers.map fun maker => spaced maker ++ blanks

/-- A sign of assignment, perhaps with a type in front of it. -/
def typedSign (assignment : Pattern) : Pattern :=
  typeAnnotation ++ assignment

def Form.tokens (name : Text) : Form → List Pattern
  | allocated => [word name, optional (bracketed nothing), typedSign "=", "new" ++ blank,
      some1 (letter isTypeLetter), bracketed (keep 1 (some1 (butNot "]")))]
  | made => [word name, optional ":" ++ "=", "make", "(", "[]" ++ some1 (letter isPathLetter), ",",
      keep 1 (some1 (butNot ",)"))]
  | repeated => [word name, "=", "[" ++ many (butNot "]") ++ "]", "*", keep 1 wordRun]
  | array => [oneOf (basicTypes.map word) ++ blank, word name,
      bracketed (keep 1 (some1 (butNot "]")))]
  | introduced => ["var" ++ blank, word name ++ blank, bracketed (keep 1 wordRun ++ blanks)]
  | listed => [word name, optional (bracketed (many wordLetter ++ blanks)),
      typedSign (oneOf [":=", "=", "<-"]),
      optional (oneOf makerPatterns) ++ among "[(\x7b"]

def Form.takesSigil : Form → Bool
  | allocated | listed => true
  | made | repeated | array | introduced => false

/-- A form from the edge of its first word on. -/
def Form.core (name : Text) (form : Form) : Pattern :=
  wordEdge ++ spaced (form.tokens name)

/-- How a form is looked for. -/
def Form.pattern (name : Text) (form : Form) : Pattern :=
  if form.takesSigil then optional "$" ++ form.core name else form.core name

/-! ## Forms of tokens -/

section Tokens

variable {text : Text}

theorem covers_among {letters : String} : (among letters).Covers text ↔
    ∃ found ∈ letters.toList, text = [found] := by
  simp [among]

theorem all_butNot {letters : List Char} :
    text.all (fun found => !letters.contains found) = true ↔ Avoids letters text := by
  simp only [List.all_eq_true, Bool.not_eq_true', List.contains_eq_mem, decide_eq_false_iff_not,
    Avoids]
  exact ⟨fun free mark listed inside => free mark inside listed,
    fun avoids found inside listed => avoids found listed inside⟩

theorem covers_bracketed {inside : Pattern} : (bracketed inside).Covers text ↔
    ∃ gap word, Text.blank gap = true ∧ inside.Covers word ∧
      text = '[' :: (gap ++ (word ++ [']'])) := by
  simp only [bracketed, covers_append, covers_blanks, covers_word]
  constructor
  · rintro ⟨_, _, ⟨_, word, ⟨_, gap, rfl, blankGap, rfl⟩, covers, rfl⟩, rfl, rfl⟩
    exact ⟨gap, word, blankGap, covers, by simp⟩
  · rintro ⟨gap, word, blankGap, covers, rfl⟩
    exact ⟨_, _, ⟨_, word, ⟨_, gap, rfl, blankGap, rfl⟩, covers, rfl⟩, rfl, by simp⟩

/-- A size in square brackets: blanks in front of it belong to it. -/
theorem covers_size : (bracketed (keep 1 (some1 (butNot "]")))).Covers text ↔
    ∃ size, size ≠ [] ∧ Avoids [']'] size ∧ text = '[' :: (size ++ [']']) := by
  simp only [covers_bracketed, covers_keep, butNot, covers_some1_letter, all_butNot]
  constructor
  · rintro ⟨gap, word, blankGap, ⟨nonempty, avoids⟩, rfl⟩
    refine ⟨gap ++ word, by simp [nonempty], ?_, by simp⟩
    intro mark listed inside
    rcases List.mem_append.mp inside with inGap | inWord
    · have blankMark := List.all_eq_true.mp blankGap mark inGap
      rw [List.mem_singleton.mp listed] at blankMark
      cases blankMark
    · exact avoids mark listed inWord
  · rintro ⟨size, nonempty, avoids, rfl⟩
    exact ⟨[], size, rfl, ⟨nonempty, avoids⟩, rfl⟩

theorem covers_index {inside : Pattern} {isInner : Text → Prop}
    (covers : ∀ inner, inside.Covers inner ↔ isInner inner) :
    (optional (bracketed inside)).Covers text ↔ IsIndex isInner text := by
  simp only [covers_optional, covers_bracketed, covers]
  constructor
  · rintro (⟨gap, inner, blankGap, isInside, rfl⟩ | rfl)
    · exact .brackets blankGap isInside
    · exact .none
  · rintro (_ | ⟨blankGap, isInside⟩)
    · exact Or.inr rfl
    · exact Or.inl ⟨_, _, blankGap, isInside, rfl⟩

theorem covers_sign {assignments : Pattern} : (typedSign assignments).Covers text ↔
    ∃ assignment, assignments.Covers assignment ∧ IsSign assignment text := by
  simp only [typedSign, typeAnnotation, covers_append, covers_optional, covers_word, butNot,
    covers_some1_letter, all_butNot]
  constructor
  · rintro ⟨_, assignment, (⟨_, type, rfl, ⟨nonempty, avoids⟩, rfl⟩ | rfl), covers, rfl⟩
    · refine ⟨assignment, covers, ?_⟩
      rw [List.append_assoc]
      exact .annotated nonempty avoids
    · exact ⟨_, covers, .plain⟩
  · rintro ⟨assignment, covers, isSign⟩
    cases isSign with
    | plain => exact ⟨[], _, Or.inr rfl, covers, rfl⟩
    | annotated nonempty avoids =>
        exact ⟨_, assignment, Or.inl ⟨_, _, rfl, ⟨nonempty, avoids⟩, rfl⟩, covers, by simp⟩

theorem covers_oneOf_words {words : List Text} :
    (oneOf (words.map word)).Covers text ↔ text ∈ words := by
  simp [covers_oneOf]

theorem exists_makers_iff {maker : List Text} :
    (∃ patterns ∈ makers, List.Forall₂ Covers patterns maker) ↔ IsMaker maker ∧ maker ≠ [] := by
  constructor
  · rintro ⟨patterns, listed, all⟩
    simp only [makers, List.mem_cons, List.not_mem_nil, or_false] at listed
    rcases listed with rfl | rfl | rfl | rfl | rfl | rfl | rfl
    · simp only [List.forall₂_cons_left_iff, List.forall₂_nil_left_iff, covers_append, covers_word,
        blank, covers_letter, covers_some1_letter] at all
      obtain ⟨_, _, ⟨_, _, rfl, ⟨space, blankSpace, rfl⟩, rfl⟩, ⟨type, _, isType, ⟨_, _, rfl,
        ⟨_, _, rfl, rfl, rfl⟩, rfl⟩, rfl⟩, rfl⟩ := all
      exact ⟨.allocation blankSpace isType, List.cons_ne_nil _ _⟩
    · simp only [List.forall₂_cons_left_iff, List.forall₂_nil_left_iff, covers_append, covers_word,
        covers_many_letter, covers_some1_letter] at all
      obtain ⟨_, _, rfl, ⟨digits, _, isDigits, ⟨_, _, ⟨_, type, rfl, isType, rfl⟩, rfl, rfl⟩,
        rfl⟩, rfl⟩ := all
      exact ⟨.composite isDigits isType, List.cons_ne_nil _ _⟩
    all_goals
      simp only [List.forall₂_cons_left_iff, List.forall₂_nil_left_iff, covers_word] at all
      obtain ⟨_, _, rfl, rfl, rfl⟩ := all
      exact ⟨.word (by decide), List.cons_ne_nil _ _⟩
  · rintro ⟨isMaker, nonempty⟩
    cases isMaker with
    | none => exact absurd rfl nonempty
    | word listed =>
        simp only [List.map_cons, List.map_nil, List.mem_cons, List.not_mem_nil, or_false] at listed
        rcases listed with rfl | rfl | rfl | rfl | rfl
        all_goals
          refine ⟨_, ?_, .cons (covers_word.mpr rfl) .nil⟩
          simp [makers]
    | allocation blankSpace isType =>
        refine ⟨_, List.mem_cons_self, .cons ?_ (.cons ?_ (.cons ?_ (.cons ?_ .nil)))⟩
        · exact ⟨_, _, covers_word.mpr rfl, ⟨_, blankSpace, rfl⟩, rfl⟩
        · exact covers_some1_letter.mpr isType
        · exact covers_word.mpr rfl
        · exact covers_word.mpr rfl
    | composite isDigits isType =>
        refine ⟨_, List.mem_cons_of_mem _ List.mem_cons_self, .cons ?_ (.cons ?_ (.cons ?_ .nil))⟩
        · exact covers_word.mpr rfl
        · exact covers_many_letter.mpr isDigits
        · exact ⟨_, _, covers_word.mpr rfl, covers_some1_letter.mpr isType, rfl⟩

theorem spaced_append_singleton {tokens : List Text} (nonempty : tokens ≠ []) {last : Text} :
    Text.Spaced (tokens ++ [last]) text ↔
      ∃ front gap, Text.Spaced tokens front ∧ Text.blank gap = true ∧
        text = front ++ (gap ++ last) := by
  induction tokens generalizing text with
  | nil => exact absurd rfl nonempty
  | cons token tokens inductionHypothesis =>
      cases tokens with
      | nil =>
          simp only [List.cons_append, List.nil_append, Text.spaced_cons_cons,
            Text.spaced_singleton]
          constructor
          · rintro ⟨gap, _, blankGap, rfl, rfl⟩
            exact ⟨_, gap, rfl, blankGap, rfl⟩
          · rintro ⟨_, gap, rfl, blankGap, rfl⟩
            exact ⟨gap, _, blankGap, rfl, rfl⟩
      | cons second tokens =>
          have further := fun text => @inductionHypothesis text (List.cons_ne_nil _ _)
          simp only [List.cons_append] at further ⊢
          simp only [Text.spaced_cons_cons, further]
          constructor
          · rintro ⟨gap, _, blankGap, ⟨front, behind, row, blankBehind, rfl⟩, rfl⟩
            exact ⟨_, behind, ⟨gap, front, blankGap, row, rfl⟩, blankBehind, by simp⟩
          · rintro ⟨_, behind, ⟨gap, front, blankGap, row, rfl⟩, blankBehind, rfl⟩
            exact ⟨gap, _, blankGap, ⟨front, behind, row, blankBehind, rfl⟩, by simp⟩

theorem covers_makers {front : Text} :
    (oneOf makerPatterns).Covers front ↔
      ∃ maker text gap, (IsMaker maker ∧ maker ≠ []) ∧ Text.Spaced maker text ∧
        Text.blank gap = true ∧ front = text ++ gap := by
  simp only [makerPatterns, covers_oneOf, List.mem_map, exists_exists_and_eq_and, covers_append,
    covers_spaced, covers_blanks, ← exists_makers_iff]
  constructor
  · rintro ⟨patterns, listed, text, gap, ⟨maker, all, row⟩, blankGap, rfl⟩
    exact ⟨maker, text, gap, ⟨patterns, listed, all⟩, row, blankGap, rfl⟩
  · rintro ⟨maker, text, gap, ⟨patterns, listed, all⟩, row, blankGap, rfl⟩
    exact ⟨patterns, listed, text, gap, ⟨maker, all, row⟩, blankGap, rfl⟩

theorem covers_opened :
    (optional (oneOf makerPatterns) ++ among "[(\x7b").Covers text ↔
      ∃ maker opening, IsMaker maker ∧ opening ∈ ['[', '(', '\x7b'] ∧
        Text.Spaced (maker ++ [[opening]]) text := by
  simp only [covers_append, covers_optional, covers_makers, covers_among]
  constructor
  · rintro ⟨_, _, (⟨maker, front, gap, ⟨isMaker, nonempty⟩, row, blankGap, rfl⟩ | rfl),
      ⟨opening, isOpening, rfl⟩, rfl⟩
    · refine ⟨maker, opening, isMaker, isOpening, (spaced_append_singleton nonempty).mpr ?_⟩
      exact ⟨front, gap, row, blankGap, List.append_assoc _ _ _⟩
    · exact ⟨[], opening, .none, isOpening, .single _⟩
  · rintro ⟨maker, opening, isMaker, isOpening, row⟩
    cases maker with
    | nil => exact ⟨[], _, Or.inr rfl, ⟨opening, isOpening, rfl⟩, Text.spaced_singleton.mp row⟩
    | cons token maker =>
        have nonempty := List.cons_ne_nil token maker
        obtain ⟨front, gap, further, blankGap, rfl⟩ := (spaced_append_singleton nonempty).mp row
        exact ⟨_, _, Or.inl ⟨_, front, gap, ⟨isMaker, nonempty⟩, further, blankGap, rfl⟩,
          ⟨opening, isOpening, rfl⟩, (List.append_assoc _ _ _).symm⟩

theorem covers_wordBlank {wanted : Text} : (word wanted ++ blank).Covers text ↔
    ∃ space, isBlank space = true ∧ text = wanted ++ [space] := by
  simp only [blank, covers_append, covers_word, covers_letter]
  constructor
  · rintro ⟨_, _, rfl, ⟨space, blankSpace, rfl⟩, rfl⟩
    exact ⟨space, blankSpace, rfl⟩
  · rintro ⟨space, blankSpace, rfl⟩
    exact ⟨_, _, rfl, ⟨space, blankSpace, rfl⟩, rfl⟩

theorem covers_length {inner : Text} :
    (many wordLetter ++ blanks).Covers inner ↔ IsLength inner := by
  simp only [wordLetter, covers_append, covers_many_letter, covers_blanks]
  exact Iff.rfl

theorem covers_enclosed : (bracketed (keep 1 wordRun ++ blanks)).Covers text ↔
    ∃ size, IsRun isWord size ∧ Text.Spaced [['['], size, [']']] text := by
  simp only [wordRun, wordLetter, covers_bracketed, covers_append, covers_keep,
    covers_some1_letter, covers_blanks, Text.spaced_cons_cons, Text.spaced_singleton]
  constructor
  · rintro ⟨gap, _, blankGap, ⟨size, behind, isRun, blankBehind, rfl⟩, rfl⟩
    exact ⟨size, isRun, gap, _, blankGap, ⟨behind, _, blankBehind, rfl, rfl⟩, by simp⟩
  · rintro ⟨size, isRun, gap, _, blankGap, ⟨behind, _, blankBehind, rfl, rfl⟩, rfl⟩
    exact ⟨gap, _, blankGap, ⟨size, behind, isRun, blankBehind, rfl⟩, by simp⟩

theorem covers_makes : (optional ":" ++ "=").Covers text ↔ text ∈ [[':', '='], ['=']] := by
  simp only [covers_append, covers_optional, covers_word, List.mem_cons, List.not_mem_nil, or_false]
  constructor
  · rintro ⟨_, _, rfl | rfl, rfl, rfl⟩
    · exact Or.inl rfl
    · exact Or.inr rfl
  · rintro (rfl | rfl)
    · exact ⟨_, _, Or.inl rfl, rfl, rfl⟩
    · exact ⟨_, _, Or.inr rfl, rfl, rfl⟩

theorem covers_assignment : (oneOf [":=", "=", "<-"]).Covers text ↔ text ∈ assignments :=
  @covers_oneOf_words text assignments

theorem covers_path : ("[]" ++ some1 (letter isPathLetter)).Covers text ↔
    ∃ type, IsRun isPathLetter type ∧ text = '[' :: ']' :: type := by
  simp only [covers_append, covers_word, covers_some1_letter]
  constructor
  · rintro ⟨_, type, rfl, isType, rfl⟩
    exact ⟨type, isType, rfl⟩
  · rintro ⟨type, isType, rfl⟩
    exact ⟨_, type, rfl, isType, rfl⟩

theorem covers_limit : (keep 1 (some1 (butNot ",)"))).Covers text ↔
    text ≠ [] ∧ Avoids [',', ')'] text := by
  simp only [covers_keep, butNot, covers_some1_letter, all_butNot]
  exact Iff.rfl

theorem covers_items : ("[" ++ many (butNot "]") ++ "]").Covers text ↔
    ∃ items, Avoids [']'] items ∧ text = '[' :: (items ++ [']']) := by
  simp only [covers_append, covers_word, butNot, covers_many_letter, all_butNot]
  constructor
  · rintro ⟨_, _, ⟨_, items, rfl, avoids, rfl⟩, rfl, rfl⟩
    exact ⟨items, avoids, rfl⟩
  · rintro ⟨items, avoids, rfl⟩
    exact ⟨_, _, ⟨_, items, rfl, avoids, rfl⟩, rfl, rfl⟩

theorem covers_type : (oneOf (basicTypes.map word) ++ blank).Covers text ↔
    ∃ type space, type ∈ basicTypes ∧ isBlank space = true ∧ text = type ++ [space] := by
  simp only [blank, covers_append, covers_oneOf_words, covers_letter]
  constructor
  · rintro ⟨type, _, isType, ⟨space, isSpace, rfl⟩, rfl⟩
    exact ⟨type, space, isType, isSpace, rfl⟩
  · rintro ⟨type, space, isType, isSpace, rfl⟩
    exact ⟨type, _, isType, ⟨space, isSpace, rfl⟩, rfl⟩

end Tokens

section Writes

variable {name : Text} {declaration : Declaration} {form : Form} {tokens : List Text}

/-- Each token of a declaration has the form of its pattern. -/
theorem Writes.forall₂ (writes : Writes name declaration tokens) :
    List.Forall₂ Covers (declaration.form.tokens name) tokens := by
  have isName : (word name).Covers name := covers_word.mpr rfl
  cases writes with
  | allocated isIndex isSign isSpace isType nonempty avoids =>
      exact .cons isName (.cons ((covers_index fun _ => covers_nothing).mpr isIndex)
        (.cons (covers_sign.mpr ⟨_, covers_word.mpr rfl, isSign⟩)
          (.cons (covers_wordBlank.mpr ⟨_, isSpace, rfl⟩)
            (.cons (covers_some1_letter.mpr isType)
              (.cons (covers_size.mpr ⟨_, nonempty, avoids, rfl⟩) .nil)))))
  | made isSign isType nonempty avoids =>
      exact .cons isName (.cons (covers_makes.mpr isSign) (.cons (covers_word.mpr rfl)
        (.cons (covers_word.mpr rfl) (.cons (covers_path.mpr ⟨_, isType, rfl⟩)
          (.cons (covers_word.mpr rfl) (.cons (covers_limit.mpr ⟨nonempty, avoids⟩) .nil))))))
  | repeated avoids isRun =>
      exact .cons isName (.cons (covers_word.mpr rfl) (.cons (covers_items.mpr ⟨_, avoids, rfl⟩)
        (.cons (covers_word.mpr rfl) (.cons (covers_some1_letter.mpr isRun) .nil))))
  | array isType isSpace nonempty avoids =>
      exact .cons (covers_type.mpr ⟨_, _, isType, isSpace, rfl⟩) (.cons isName
        (.cons (covers_size.mpr ⟨_, nonempty, avoids, rfl⟩) .nil))
  | introduced isSpace isSecond isRun row =>
      exact .cons (covers_wordBlank.mpr ⟨_, isSpace, rfl⟩)
        (.cons (covers_wordBlank.mpr ⟨_, isSecond, rfl⟩)
          (.cons (covers_enclosed.mpr ⟨_, isRun, row⟩) .nil))
  | listed isIndex isAssignment isSign isMaker isOpening row =>
      exact .cons isName (.cons ((covers_index fun _ => covers_length).mpr isIndex)
        (.cons (covers_sign.mpr ⟨_, covers_assignment.mpr isAssignment, isSign⟩)
          (.cons (covers_opened.mpr ⟨_, _, isMaker, isOpening, row⟩) .nil)))

/-- Whatever the patterns of a form describe is a declaration of that form. -/
theorem exists_writes (all : List.Forall₂ Covers (form.tokens name) tokens) :
    ∃ declaration, declaration.form = form ∧ Writes name declaration tokens := by
  cases form with
  | allocated =>
      obtain _ | ⟨isName, _ | ⟨isIndex, _ | ⟨isSign, _ | ⟨isNew, _ | ⟨isType, _ |
        ⟨isSize, ⟨⟩⟩⟩⟩⟩⟩⟩ := all
      obtain ⟨_, isEqual, isSign⟩ := covers_sign.mp isSign
      obtain ⟨space, isSpace, rfl⟩ := covers_wordBlank.mp isNew
      obtain ⟨size, nonempty, avoids, rfl⟩ := covers_size.mp isSize
      rw [covers_word.mp isName]
      rw [covers_word.mp isEqual] at isSign
      exact ⟨_, rfl, .allocated ((covers_index fun _ => covers_nothing).mp isIndex) isSign isSpace
        (covers_some1_letter.mp isType) nonempty avoids⟩
  | made =>
      obtain _ | ⟨isName, _ | ⟨isSign, _ | ⟨isMake, _ | ⟨isOpen, _ | ⟨isPath, _ | ⟨isComma,
        _ | ⟨isLimit, ⟨⟩⟩⟩⟩⟩⟩⟩⟩ := all
      obtain ⟨type, isType, rfl⟩ := covers_path.mp isPath
      obtain ⟨nonempty, avoids⟩ := covers_limit.mp isLimit
      rw [covers_word.mp isName, covers_word.mp isMake, covers_word.mp isOpen,
        covers_word.mp isComma]
      exact ⟨_, rfl, .made (covers_makes.mp isSign) isType nonempty avoids⟩
  | repeated =>
      obtain _ | ⟨isName, _ | ⟨isEqual, _ | ⟨isItems, _ | ⟨isStar, _ | ⟨isRun, ⟨⟩⟩⟩⟩⟩⟩ := all
      obtain ⟨items, avoids, rfl⟩ := covers_items.mp isItems
      rw [covers_word.mp isName, covers_word.mp isEqual, covers_word.mp isStar]
      exact ⟨_, rfl, .repeated avoids (covers_some1_letter.mp isRun)⟩
  | array =>
      obtain _ | ⟨isType, _ | ⟨isName, _ | ⟨isSize, ⟨⟩⟩⟩⟩ := all
      obtain ⟨type, space, isBasic, isSpace, rfl⟩ := covers_type.mp isType
      obtain ⟨size, nonempty, avoids, rfl⟩ := covers_size.mp isSize
      rw [covers_word.mp isName]
      exact ⟨_, rfl, .array isBasic isSpace nonempty avoids⟩
  | introduced =>
      obtain _ | ⟨isVar, _ | ⟨isName, _ | ⟨isSize, ⟨⟩⟩⟩⟩ := all
      obtain ⟨space, isSpace, rfl⟩ := covers_wordBlank.mp isVar
      obtain ⟨second, isSecond, rfl⟩ := covers_wordBlank.mp isName
      obtain ⟨size, isRun, row⟩ := covers_enclosed.mp isSize
      exact ⟨_, rfl, .introduced isSpace isSecond isRun row⟩
  | listed =>
      obtain _ | ⟨isName, _ | ⟨isIndex, _ | ⟨isSign, _ | ⟨isOpened, ⟨⟩⟩⟩⟩⟩ := all
      obtain ⟨assignment, isAssignment, isSign⟩ := covers_sign.mp isSign
      obtain ⟨maker, opening, isMaker, isOpening, row⟩ := covers_opened.mp isOpened
      rw [covers_word.mp isName]
      exact ⟨_, rfl, .listed ((covers_index fun _ => covers_length).mp isIndex)
        (covers_assignment.mp isAssignment) isSign isMaker isOpening row⟩

theorem exists_append_of_spaced {token text : Text} (row : Text.Spaced (token :: tokens) text) :
    ∃ more, text = token ++ more := by
  cases row with
  | single => exact ⟨[], (List.append_nil token).symm⟩
  | cons => exact ⟨_, rfl⟩

theorem Writes.exists_cons (isName : IsRun isWord name)
    (writes : Writes name declaration tokens) {text : Text} (row : Text.Spaced tokens text) :
    ∃ first more, text = first :: more ∧ isWord first = true := by
  have begins : ∃ first more others, tokens = (first :: more) :: others ∧ isWord first = true := by
    obtain ⟨first, more, rfl⟩ := List.exists_cons_of_ne_nil isName.1
    have word := (Bool.and_eq_true_iff.mp isName.2).1
    cases writes with
    | array isType =>
        have types : basicTypes.all (fun type => type.head?.any isWord) = true := by
          decide +kernel
        have typed := List.all_eq_true.mp types _ isType
        obtain ⟨letter, found, inside⟩ := (Option.any_eq_true _ _).mp typed
        obtain ⟨more, rfl⟩ := List.head?_eq_some_iff.mp found
        exact ⟨letter, _, _, rfl, inside⟩
    | introduced => exact ⟨'v', _, _, rfl, by decide +kernel⟩
    | _ => exact ⟨first, more, _, rfl, word⟩
  obtain ⟨first, more, others, rfl, word⟩ := begins
  obtain ⟨behind, rfl⟩ := exists_append_of_spaced row
  exact ⟨first, more ++ behind, rfl, word⟩

theorem isContextFree_spaced (name : Text) (form : Form) :
    (spaced (form.tokens name)).isContextFree = true := by
  cases form <;>
    simp only [spaced, Form.tokens, isContextFree_append, isContextFree_word, Bool.true_and,
      Bool.and_true] <;>
    decide

/-- In front of a letter of a word, there is an edge just where no other such letter stands. -/
theorem isEdge_iff {front rest : Text} {first : Char} (ahead : rest.head? = some first)
    (inWord : isWord first = true) : (onWord front.reverse.head? != onWord rest.head?) = true ↔
      front.getLast?.all (fun letter => !isWord letter) = true := by
  rw [List.head?_reverse, ahead]
  cases front.getLast? <;> simp [onWord, inWord]

/-- A form is found at a place if and only if a declaration of that form stands there. -/
theorem exists_mem_ways_core_iff (isName : IsRun isWord name) {front rest : Text}
    {kept : List (Nat × Piece)} :
    (∃ there, there ∈ ways (form.core name) ⟨⟨front.reverse, rest⟩, kept⟩) ↔
      ∃ declaration tail, declaration.form = form ∧ Stands name declaration front rest tail := by
  constructor
  · rintro ⟨there, member⟩
    obtain ⟨middle, atEdge, further⟩ := List.mem_flatMap.mp member
    have isEdge : (onWord front.reverse.head? != onWord rest.head?) = true := by
      by_contra noEdge
      rw [ways, if_neg noEdge] at atEdge
      cases atEdge
    have same := eq_of_mem_guard atEdge
    subst same
    obtain ⟨text, covers, split, _⟩ := passed_of_mem_ways _ further
    obtain ⟨tokens, all, row⟩ := covers_spaced.mp covers
    obtain ⟨declaration, isForm, writes⟩ := exists_writes all
    obtain ⟨first, more, rfl, inWord⟩ := writes.exists_cons isName row
    have ahead : rest.head? = some first := congrArg List.head? split
    exact ⟨declaration, there.place.rest, isForm,
      ⟨(isEdge_iff ahead inWord).mp isEdge, tokens, _, writes, row, split⟩⟩
  · rintro ⟨declaration, tail, rfl, outside, tokens, text, writes, row, rfl⟩
    obtain ⟨kept', found⟩ := exists_mem_ways_of_covers
      (isContextFree_spaced name declaration.form) (covers_spaced.mpr ⟨_, writes.forall₂, row⟩)
      front.reverse tail kept
    obtain ⟨first, more, rfl, inWord⟩ := writes.exists_cons isName row
    refine ⟨_, List.mem_flatMap.mpr ⟨_, ?_, found⟩⟩
    rw [ways, if_pos ((isEdge_iff rfl inWord).mpr outside)]
    exact List.mem_singleton_self _

end Writes

end Declaration

end InputDemand
