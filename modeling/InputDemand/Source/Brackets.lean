import InputDemand.Text.Cursor

/-!
# Brackets and lists of arguments

All three kinds of brackets count alike.  A list is split at separators that stand outside all
brackets; its pieces carry the byte positions at which they stand in the list.
-/

namespace InputDemand

def opens (letter : Char) : Bool :=
  letter = '(' || letter = '[' || letter = '\x7b'

def closes (letter : Char) : Bool :=
  letter = ')' || letter = ']' || letter = '\x7d'

namespace Cursor

/-- From a place inside `depth` brackets, the place of the bracket that closes the outermost. -/
def closeFrom? (depth : Nat) (before : List Char) : Text → Option Cursor
  | [] => none
  | letter :: rest =>
      if opens letter then closeFrom? (depth + 1) (letter :: before) rest
      else if closes letter then
        match depth with
        | 0 => none
        | 1 => some ⟨before, letter :: rest⟩
        | depth + 2 => closeFrom? (depth + 1) (letter :: before) rest
      else closeFrom? depth (letter :: before) rest

/-- The place of the bracket that closes the one at the cursor. -/
def matchingClose? (cursor : Cursor) : Option Cursor :=
  closeFrom? 0 cursor.before cursor.rest

/-- The bytes of a call from its start through the bracket that closes the one at `opening`; an
unclosed call ends behind its opening bracket. -/
def callSpan (start opening : Cursor) : Span :=
  ⟨start.offset, (opening.matchingClose?.getD opening).offset + 1⟩

end Cursor

namespace Text

/-- The pieces of a text between separators outside all brackets, from a place at bracket depth
`depth` behind the piece `piece` read so far, its last character first. -/
def splitOutsideFrom (separator : Char) (depth : Int) (piece : List Char) : Text → List Text
  | [] => [piece.reverse]
  | letter :: rest =>
      if opens letter then splitOutsideFrom separator (depth + 1) (letter :: piece) rest
      -- A bracket that closes too much leaves the depth below zero, where nothing separates.
      else if closes letter then splitOutsideFrom separator (depth - 1) (letter :: piece) rest
      else if letter = separator && depth = 0 then
        piece.reverse :: splitOutsideFrom separator depth [] rest
      else splitOutsideFrom separator depth (letter :: piece) rest

/-- The pieces of a text between separators that stand outside all brackets. -/
def splitOutside (separator : Char) (text : Text) : List Text :=
  splitOutsideFrom separator 0 [] text

/-- Pieces that were separated by one byte each, with the positions at which they start. -/
def located (start : Nat) : List Text → List (Nat × Text)
  | [] => []
  | piece :: pieces => (start, piece) :: located (start + size piece + 1) pieces

/-- The arguments of a list without its brackets: what stands between top-level commas, trimmed,
with its position; empty arguments are left out. -/
def arguments (text : Text) : List (Nat × Text) :=
  (located 0 (splitOutside ',' text)).filterMap fun (start, piece) =>
    let trimmed := trim piece
    if trimmed.isEmpty then none else some (start + blankWidth piece, trimmed)

end Text

namespace Cursor

/-- The arguments of the call whose bracket opens at the cursor, with their positions in the whole
text; none if the bracket is never closed. -/
def callArguments (opening : Cursor) : List (Nat × Text) :=
  match opening.matchingClose? with
  | none => []
  | some close =>
      (Text.arguments (opening.next.textUpTo close)).map fun (start, argument) =>
        (opening.next.offset + start, argument)

end Cursor

end InputDemand
