import InputDemand.Pattern.Basic

/-!
# Searching with a pattern

The first match from a place on, and all matches of a text from left to right without overlap.
A search may begin inside a text: what lies in front of the place still decides about word edges
and line starts.
-/

namespace InputDemand

/-- A match: the piece it covers and the pieces it kept. -/
structure Match where
  start : Cursor
  stop : Cursor
  kept : List (Nat × Piece)

namespace Match

def text (found : Match) : Text :=
  found.start.textUpTo found.stop

def span (found : Match) : Span :=
  found.start.spanUpTo found.stop

/-- The piece kept under a number, if the match came past it. -/
def piece? (found : Match) (slot : Nat) : Option Piece :=
  found.kept.lookup slot

/-- The characters kept under a number; none if the match did not come past it. -/
def group (found : Match) (slot : Nat) : Text :=
  ((found.piece? slot).map Piece.text).getD []

/-- The place of the last character matched. -/
def last (found : Match) : Cursor :=
  found.stop.back

end Match

namespace Pattern

/-- The best match that starts right at a place. -/
def matchAt? (pattern : Pattern) (place : Cursor) : Option Match :=
  (ways pattern ⟨place, []⟩).head?.map fun there => ⟨place, there.place, there.kept⟩

/-- The first match at or behind a place. -/
def findFrom? (pattern : Pattern) (place : Cursor) : Option Match :=
  go place.before place.rest
where
  go (before : List Char) : Text → Option Match
    | [] => pattern.matchAt? ⟨before, []⟩
    | first :: rest =>
        match pattern.matchAt? ⟨before, first :: rest⟩ with
        | some found => some found
        | none => go (first :: before) rest

def find? (pattern : Pattern) (text : Text) : Option Match :=
  pattern.findFrom? (Cursor.start text)

def occursIn (pattern : Pattern) (text : Text) : Bool :=
  (pattern.find? text).isSome

/-- At most `count` successive matches at or behind a place. -/
def findMany (pattern : Pattern) : Nat → Cursor → List Match
  | 0, _ => []
  | count + 1, place =>
      match pattern.findFrom? place with
      | none => []
      | some found => found :: findMany pattern count found.stop

/-- All matches in a text from left to right, none overlapping another.  Each takes a character,
so there are no more of them than characters. -/
def findAll (pattern : Pattern) (text : Text) : List Match :=
  pattern.findMany text.length (Cursor.start text)

end Pattern

end InputDemand
