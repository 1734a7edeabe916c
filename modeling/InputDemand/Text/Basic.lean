/-!
# Texts and byte positions

A text is its list of characters.  Positions in a text count the bytes of its UTF-8 form, so a
number may fall inside a character or past the end; cutting a text at such a number is refused.
A span is a half-open range of byte positions.
-/

namespace InputDemand

/-- Source code, prompts and answers, character by character. -/
abbrev Text := List Char

namespace Text

/-- Length in bytes of the UTF-8 form. -/
def size : Text → Nat
  | [] => 0
  | letter :: text => letter.utf8Size + size text

@[simp]
theorem size_nil : size [] = 0 := rfl

@[simp]
theorem size_cons (letter : Char) (text : Text) :
    size (letter :: text) = letter.utf8Size + size text := rfl

@[simp]
theorem size_append (left right : Text) : size (left ++ right) = size left + size right := by
  induction left with
  | nil => simp
  | cons letter left ih => simp [ih, Nat.add_assoc]

@[simp]
theorem size_reverse (text : Text) : size text.reverse = size text := by
  induction text with
  | nil => rfl
  | cons letter text ih => simp [ih, Nat.add_comm]

/-- The text in front of byte `offset` and the text behind it, if `offset` is a place between
two characters (or at either end). -/
def cut? : Text → Nat → Option (Text × Text)
  | text, 0 => some ([], text)
  | [], _ + 1 => none
  | letter :: text, offset + 1 =>
      if letter.utf8Size ≤ offset + 1 then
        (cut? text (offset + 1 - letter.utf8Size)).map fun (front, back) => (letter :: front, back)
      else none

/-- The first place at or behind byte `offset`: what lies in front of it and what lies behind. -/
def cutFrom : Text → Nat → Text × Text
  | text, 0 => ([], text)
  | [], _ + 1 => ([], [])
  | letter :: text, offset + 1 =>
      let (front, back) := cutFrom text (offset + 1 - letter.utf8Size)
      (letter :: front, back)

/-- A cut is exact: the pieces make up the text and the front piece has the asked size. -/
theorem cut?_eq_some_iff {text front back : Text} {offset : Nat} :
    cut? text offset = some (front, back) ↔ text = front ++ back ∧ size front = offset := by
  induction text generalizing offset front with
  | nil =>
      cases offset with
      | zero => cases front <;> simp [cut?, Char.utf8Size_pos, Nat.ne_of_gt, eq_comm]
      | succ offset => cases front <;> simp [cut?]
  | cons letter text ih =>
      have positive := letter.utf8Size_pos
      cases offset with
      | zero =>
          cases front with
          | nil => simp [cut?, eq_comm]
          | cons first front =>
              have := first.utf8Size_pos
              simp [cut?]
              omega
      | succ offset =>
          cases front with
          | nil => simp [cut?]
          | cons first front =>
              by_cases fits : letter.utf8Size ≤ offset + 1
              · simp only [cut?, fits, if_true, Option.map_eq_some_iff, Prod.mk.injEq,
                  Prod.exists, List.cons.injEq, List.cons_append, size_cons]
                constructor
                · rintro ⟨tail, rest, found, ⟨rfl, rfl⟩, rfl⟩
                  obtain ⟨rfl, sized⟩ := ih.1 found
                  exact ⟨⟨rfl, rfl⟩, by omega⟩
                · rintro ⟨⟨rfl, rfl⟩, sized⟩
                  exact ⟨front, back, ih.2 ⟨rfl, by omega⟩, ⟨rfl, rfl⟩, rfl⟩
              · simp only [cut?, fits, if_false, List.cons_append, List.cons.injEq, size_cons,
                  reduceCtorEq, false_iff]
                rintro ⟨⟨rfl, _⟩, sized⟩
                omega

def startsWith (text start : Text) : Bool :=
  start.isPrefixOf text

/-- The lines of a text; a line ends before its line feed, and a carriage return in front of the
line feed belongs to the line end.  A line feed at the very end opens no further line. -/
def lines (text : Text) : List Text :=
  let pieces := text.splitOn '\n'
  let ended := pieces.dropLast.map fun line =>
    if line.getLast? = some '\r' then line.dropLast else line
  match pieces.getLast? with
  | some [] | none => ended
  | some last => ended ++ [last]

def ofNat (number : Nat) : Text :=
  Nat.toDigits 10 number

/-- The decimal form of an integer, with a minus sign if it is negative. -/
def ofInt : Int → Text
  | .ofNat number => ofNat number
  | .negSucc number => '-' :: ofNat (number + 1)

end Text

/-- A byte position that is no place in its text: past the end, or inside a character. -/
structure Misplaced where
  offset : Nat
deriving DecidableEq, Repr

/-- The half-open range of byte positions from `start` up to `stop`. -/
structure Span where
  start : Nat
  stop : Nat
deriving DecidableEq, Repr

namespace Span

def contains (span : Span) (offset : Nat) : Bool :=
  span.start ≤ offset && offset < span.stop

def shift (span : Span) (base : Nat) : Span :=
  ⟨span.start + base, span.stop + base⟩

end Span

/-- The number of line feeds among the bytes in front of `offset`. -/
def Text.feedsBefore : Text → Nat → Nat
  | [], _ => 0
  | _, 0 => 0
  | letter :: text, offset + 1 =>
      (if letter = '\n' then 1 else 0) + feedsBefore text (offset + 1 - letter.utf8Size)

/-- The number of the line, counted from one, on which a span starts. -/
def Span.line (span : Span) (source : Text) : Nat :=
  Text.feedsBefore source span.start + 1

/-- The piece of a text that a span covers. -/
def Text.slice (text : Text) (span : Span) : Except Misplaced Text :=
  match Text.cut? text span.start with
  | none => .error ⟨span.start⟩
  | some (_, back) =>
      if span.start ≤ span.stop then
        match Text.cut? back (span.stop - span.start) with
        | none => .error ⟨span.stop⟩
        | some (piece, _) => .ok piece
      else .error ⟨span.stop⟩

end InputDemand
