import InputDemand.Language
import InputDemand.Loop.Counter
import InputDemand.Source.Body

/-!
# Loops with their condition behind the body

The count of such a loop is known only if its condition compares a counter that is assigned in
front of the loop and stepped in its body.
-/

namespace InputDemand

open Pattern

/-- The keyword and the brace of a loop whose condition follows its body. -/
def doOpening : Pattern :=
  wordEdge ++ "do" ++ blanks ++ "\x7b"

def whileOpening : Pattern :=
  "while" ++ blanks ++ "("

/-- The keyword and the brace of a loop without a condition. -/
def repeatOpening : Pattern :=
  wordEdge ++ "repeat" ++ blanks ++ "\x7b"

def conditionBehind? (body : Piece) : Option Text := do
  let keyword ← whileOpening.matchAt? body.stop.next.skipBlank
  let close ← keyword.last.matchingClose?
  return Text.trim (keyword.stop.textUpTo close)

/-- A comparison of a counter, without its dollar sign, with a limit. -/
def counterCondition : Pattern :=
  textStart ++ optional "$" ++ keep 1 Pattern.name ++ blanks ++
  keep 2 (oneOf ["<=", ">=", "!=", "<", ">"]) ++ blanks ++ keep 3 (some1 inLine) ++ textEnd

/-- An assignment to `counter`, whose value is kept. -/
def assignmentTo (counter : Text) : Pattern :=
  optional "$" ++ wordEdge ++ Pattern.word counter ++ blanks ++ "=" ++ blanks ++
  keep 1 (butNot "=;\n" ++ many (butNot ";\n"))

def statementPieces (body : Text) : List Text :=
  body.splitOnP fun found => found = ';' || found = '\n' || found = '\x7b' || found = '\x7d'

/-- The counter of a condition and the count it states: from the last value assigned in front of
the loop, by the first step made in the body. -/
def conditionCount? (inFront body condition : Text) : Option (Text × Count) := do
  let parts ← counterCondition.find? condition
  let counter := parts.group 1
  let assignment ← ((assignmentTo counter).findAll inFront).getLast?
  let step ← (statementPieces body).findSome? fun statement => stepOf? statement counter
  let count ← countTo? (Text.trim (assignment.group 1)) (Comparison.ofSign (parts.group 2))
    (parts.group 3) step
  return (counter, count)

/-- The counter, if it is known, and the count of the loop that opens at a match. -/
def bodyFirstCount (found : Match) : Option Text × Count :=
  let unknown := fun (expression : Text) => (none, (⟨Trip.unknown expression, .ascending⟩ : Count))
  match found.last.block? with
  | none => unknown "do".toList
  | some body =>
      match conditionBehind? body with
      | none => unknown "do".toList
      | some condition =>
          match conditionCount? found.start.before.reverse body.text condition with
          | none => unknown condition
          | some (counter, count) => (some counter, count)

/-- The loop with a condition behind its body that opens at a match. -/
def bodyFirstLoop (found : Match) : Loop :=
  let (counter?, count) := bodyFirstCount found
  { kind := .bodyFirst
    trip := count.trip
    direction := count.direction
    counter? := counter?
    collection? := none
    header := found.span
    body? := found.last.block?.map Piece.span }

/-- The loop without a condition that opens at a match; nothing tells how often it runs. -/
def endlessLoop (found : Match) : Loop where
  kind := .bodyFirst
  trip := Trip.unknown "repeat".toList
  direction := .ascending
  counter? := none
  collection? := none
  header := found.span
  body? := found.last.block?.map Piece.span

/-- The first place of a text at or behind a position, which must not lie past the end. -/
def placeFrom (masked : Text) (least : Nat) : Except Misplaced Cursor :=
  if least ≤ Text.size masked then .ok (Cursor.seek masked least) else .error ⟨least⟩

/-- The first loop with its condition behind its body, or without one, whose header starts at or
behind a position. -/
def Language.bodyFirstLoop? (language : Language) (masked : Text) (least : Nat) :
    Except Misplaced (Option Loop) :=
  match language with
  | .python | .go | .sql => return none
  | .r => return (repeatOpening.findFrom? (← placeFrom masked least)).map endlessLoop
  | _ => return (doOpening.findFrom? (← placeFrom masked least)).map bodyFirstLoop

end InputDemand
