import InputDemand.Text.CharClass

/-!
# Places in a text

A cursor is a place in a text: what lies in front of it, nearest character first, and what lies
behind it.  Scanning moves a cursor, so the place that a scan arrives at is always between two
characters of the same text; only a bare number has to be checked before it can become a cursor.
-/

namespace InputDemand

/-- A place in a text. -/
structure Cursor where
  /-- What lies in front of the place, nearest character first. -/
  before : List Char
  rest : Text
deriving DecidableEq, Repr

namespace Cursor

def start (text : Text) : Cursor :=
  ⟨[], text⟩

def text (cursor : Cursor) : Text :=
  cursor.before.reverse ++ cursor.rest

def offset (cursor : Cursor) : Nat :=
  Text.size cursor.before

/-- One character on; at the end, the end. -/
def next : Cursor → Cursor
  | ⟨before, letter :: rest⟩ => ⟨letter :: before, rest⟩
  | ⟨before, []⟩ => ⟨before, []⟩

/-- One character back; at the start, the start. -/
def back : Cursor → Cursor
  | ⟨letter :: before, rest⟩ => ⟨before, letter :: rest⟩
  | ⟨[], rest⟩ => ⟨[], rest⟩

def skipWhile (skip : Char → Bool) (cursor : Cursor) : Cursor :=
  ⟨(cursor.rest.takeWhile skip).reverse ++ cursor.before, cursor.rest.dropWhile skip⟩

def backWhile (skip : Char → Bool) (cursor : Cursor) : Cursor :=
  ⟨cursor.before.dropWhile skip, (cursor.before.takeWhile skip).reverse ++ cursor.rest⟩

def skip (count : Nat) (cursor : Cursor) : Cursor :=
  ⟨(cursor.rest.take count).reverse ++ cursor.before, cursor.rest.drop count⟩

/-- The text from one place up to a later place of the same text. -/
def textUpTo (origin upTo : Cursor) : Text :=
  origin.rest.take (origin.rest.length - upTo.rest.length)

def spanUpTo (origin upTo : Cursor) : Span :=
  ⟨origin.offset, upTo.offset⟩

/-- The first place at or behind a byte position. -/
def seek (text : Text) (offset : Nat) : Cursor :=
  let (front, back) := Text.cutFrom text offset
  ⟨front.reverse, back⟩

/-- The place at a byte position, if there is one. -/
def at? (text : Text) (offset : Nat) : Except Misplaced Cursor :=
  match Text.cut? text offset with
  | some (front, back) => .ok ⟨front.reverse, back⟩
  | none => .error ⟨offset⟩

def lineStart (cursor : Cursor) : Cursor :=
  cursor.backWhile (· ≠ '\n')

/-- The end of the line that the place is on, in front of its line feed. -/
def lineEnd (cursor : Cursor) : Cursor :=
  cursor.skipWhile (· ≠ '\n')

/-- Bytes of leading blanks of the line that the place is on. -/
def indentation (cursor : Cursor) : Nat :=
  let start := cursor.lineStart
  Text.blankWidth (start.rest.takeWhile (· ≠ '\n'))

def skipBlank (cursor : Cursor) : Cursor :=
  cursor.skipWhile isBlank

/-- The position behind the blanks that start at a position; past the end, the position itself. -/
def blanksEnd (text : Text) (offset : Nat) : Except Misplaced Nat :=
  if Text.size text < offset then .ok offset
  else (at? text offset).map fun place => place.skipBlank.offset

/-- The place of the first occurrence of a word at or behind the cursor. -/
def find? (word : Text) : Cursor → Option Cursor
  | ⟨before, rest⟩ => go before rest
where
  go (before : List Char) : Text → Option Cursor
    | [] => if word.isEmpty then some ⟨before, []⟩ else none
    | letter :: rest =>
        if word.isPrefixOf (letter :: rest) then some ⟨before, letter :: rest⟩
        else go (letter :: before) rest

@[simp]
theorem text_next (cursor : Cursor) : cursor.next.text = cursor.text := by
  rcases cursor with ⟨before, _ | ⟨letter, rest⟩⟩ <;> simp [next, text]

@[simp]
theorem text_back (cursor : Cursor) : cursor.back.text = cursor.text := by
  rcases cursor with ⟨_ | ⟨letter, before⟩, rest⟩ <;> simp [back, text]

@[simp]
theorem text_skipWhile (skip : Char → Bool) (cursor : Cursor) :
    (cursor.skipWhile skip).text = cursor.text := by
  simp [skipWhile, text, List.takeWhile_append_dropWhile]

@[simp]
theorem text_backWhile (skip : Char → Bool) (cursor : Cursor) :
    (cursor.backWhile skip).text = cursor.text := by
  simp only [backWhile, text]
  rw [← List.append_assoc, ← List.reverse_append, List.takeWhile_append_dropWhile]

/-- A checked place lies in the text that was asked for, at the byte that was asked for. -/
theorem at?_eq_ok_iff {source : Text} {offset : Nat} {cursor : Cursor} :
    at? source offset = .ok cursor ↔ cursor.text = source ∧ cursor.offset = offset := by
  unfold at?
  cases found : Text.cut? source offset with
  | none =>
      simp only [reduceCtorEq, false_iff]
      rintro ⟨rfl, rfl⟩
      have : Text.cut? cursor.text cursor.offset = some (cursor.before.reverse, cursor.rest) :=
        Text.cut?_eq_some_iff.2 ⟨rfl, by simp [Cursor.offset]⟩
      simp_all
  | some pieces =>
      obtain ⟨front, back⟩ := pieces
      obtain ⟨rfl, rfl⟩ := Text.cut?_eq_some_iff.1 found
      simp only [Except.ok.injEq]
      constructor
      · rintro rfl
        simp [Cursor.text, Cursor.offset]
      · rintro ⟨same, sized⟩
        have := Text.cut?_eq_some_iff.2 (show front ++ back = _ ∧ _ from ⟨same.symm, by
          simpa [Cursor.offset] using sized⟩)
        rw [found] at this
        simp only [Option.some.injEq, Prod.mk.injEq] at this
        obtain ⟨rfl, rfl⟩ := this
        simp

end Cursor

end InputDemand
