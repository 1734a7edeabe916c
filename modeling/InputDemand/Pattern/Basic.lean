import InputDemand.Text.Cursor

/-!
# Patterns and their matches

A pattern describes pieces of a text.  Where it matches in several ways the ways are ranked: an
earlier alternative before a later one, a greedy repetition by most rounds first, a reluctant one
by fewest.  `Pattern.ways` lists all ways from a place, best first, by recursion on the pattern.
-/

namespace InputDemand

/-- A pattern over characters. -/
inductive Pattern where
  | nothing
  | letter (accepts : Char → Bool)
  | andThen (first second : Pattern)
  | orElse (first second : Pattern)
  /-- Any number of rounds, as many as possible. -/
  | many (body : Pattern)
  /-- Any number of rounds, as few as possible. -/
  | few (body : Pattern)
  /-- A pattern whose match is kept under a number. -/
  | keep (slot : Nat) (body : Pattern)
  | textStart
  | textEnd
  | lineStart
  /-- The end of a line, in front of its line feed. -/
  | lineEnd
  /-- A place with a word character on exactly one side. -/
  | wordEdge

/-- A piece of a text: where it starts, and the place behind it. -/
structure Piece where
  start : Cursor
  stop : Cursor
deriving Repr

namespace Piece

def text (piece : Piece) : Text :=
  piece.start.textUpTo piece.stop

def span (piece : Piece) : Span :=
  piece.start.spanUpTo piece.stop

end Piece

/-- How far a match has come, and the pieces it has kept, the newest first. -/
structure Progress where
  place : Cursor
  kept : List (Nat × Piece)

namespace Pattern

instance : Append Pattern := ⟨andThen⟩

def word (text : Text) : Pattern :=
  text.foldr (fun wanted rest => andThen (letter (· == wanted)) rest) nothing

instance : Coe String Pattern := ⟨fun text => word text.toList⟩

def among (letters : String) : Pattern :=
  letter fun found => letters.toList.contains found

def butNot (letters : String) : Pattern :=
  letter fun found => !letters.toList.contains found

/-- One round or more, as many as possible. -/
def some1 (body : Pattern) : Pattern :=
  body ++ many body

/-- One round or more, as few as possible. -/
def few1 (body : Pattern) : Pattern :=
  body ++ few body

/-- The pattern if it matches, else nothing. -/
def optional (body : Pattern) : Pattern :=
  orElse body nothing

def oneOf : List Pattern → Pattern
  | [] => letter fun _ => false
  | [only] => only
  | first :: others => orElse first (oneOf others)

def blank : Pattern := letter isBlank

def blanks : Pattern := many blank

def gap : Pattern := some1 blank

def indent : Pattern := letter isIndent

def wordLetter : Pattern := letter isWord

def wordRun : Pattern := some1 wordLetter

def digitRun : Pattern := some1 (letter isDecimal)

def inLine : Pattern := letter (· != '\n')

/-- A name: an ASCII letter or underscore, then word characters. -/
def name : Pattern := letter isNameStart ++ many wordLetter

/-- All ways of going round again, from a place, for at most `rounds` rounds: the ways that go
on come before the way that stops. -/
def greedyWays (step : Progress → List Progress) : Nat → Progress → List Progress
  | 0, here => [here]
  | rounds + 1, here => (step here).flatMap (greedyWays step rounds) ++ [here]

/-- The same rounds with stopping preferred. -/
def reluctantWays (step : Progress → List Progress) : Nat → Progress → List Progress
  | 0, here => [here]
  | rounds + 1, here => here :: (step here).flatMap (reluctantWays step rounds)

/-- Whether a place has a line feed, or an end of the text, on a side. -/
def atBreak (side : Option Char) : Bool :=
  side.all (· == '\n')

/-- Whether a side of a place is a word character. -/
def onWord (side : Option Char) : Bool :=
  side.any isWord

/-- All ways in which a pattern matches from where a match has come to, best first.  A repetition
makes at most as many rounds as characters are left, since every round takes one. -/
def ways : Pattern → Progress → List Progress
  | nothing, here => [here]
  | letter accepts, here =>
      match here.place.rest with
      | found :: _ => if accepts found then [{ here with place := here.place.next }] else []
      | [] => []
  | andThen first second, here => (ways first here).flatMap (ways second)
  | orElse first second, here => ways first here ++ ways second here
  | many body, here => greedyWays (ways body) here.place.rest.length here
  | few body, here => reluctantWays (ways body) here.place.rest.length here
  | keep slot body, here =>
      (ways body here).map fun there =>
        { there with kept := (slot, ⟨here.place, there.place⟩) :: there.kept }
  | textStart, here => if here.place.before.isEmpty then [here] else []
  | textEnd, here => if here.place.rest.isEmpty then [here] else []
  | lineStart, here => if atBreak here.place.before.head? then [here] else []
  | lineEnd, here => if atBreak here.place.rest.head? then [here] else []
  | wordEdge, here =>
      if onWord here.place.before.head? != onWord here.place.rest.head? then [here] else []

end Pattern

end InputDemand
