import InputDemand.Language
import InputDemand.Loop.Counter
import InputDemand.Source.Body

/-!
# Counting loops

Loops whose header states a counter with its bound: three clauses between semicolons, a range, or
a sequence between two ends.  A three-clause header that states no count is passed over together
with its body; the other kinds are passed over alone.
-/

namespace InputDemand

open Pattern

/-- A loop header of three clauses, with the body behind it. -/
structure ClauseHeader where
  start : Cursor
  stop : Cursor
  clauses : Text
  body? : Option Piece

/-- The end of a loop's body, or else of its header. -/
def ClauseHeader.bodyStop (header : ClauseHeader) : Nat :=
  match header.body? with
  | none => header.stop.offset
  | some body => body.stop.offset

/-- The loop of the first header at or behind `resume` that states a count.  A header that states
none hides what its body holds. -/
def firstClauseLoop? (resume : Nat) : List ClauseHeader → Option Loop
  | [] => none
  | header :: headers =>
      if header.start.offset < resume then firstClauseLoop? resume headers
      else
        match counterHeader? header.clauses with
        | none => firstClauseLoop? header.bodyStop headers
        | some counted => some {
            kind := .counter
            trip := counted.count.trip
            direction := counted.count.direction
            counter? := some counted.counter
            collection? := none
            header := header.start.spanUpTo header.stop
            body? := header.body?.map Piece.span }

def forOpening : Pattern :=
  wordEdge ++ "for" ++ blanks ++ "("

/-- The three-clause header that a keyword opens in brackets, followed by a block or statement. -/
def bracketedClauses? (found : Match) : Option ClauseHeader := do
  let close ← found.last.matchingClose?
  let clauses := found.stop.textUpTo close
  if (Text.splitOutside ';' clauses).length ≠ 3 then none
  return ⟨found.start, close.next, clauses, close.next.bodyAfter? false⟩

/-- A header of three clauses without brackets, up to the brace that opens its body. -/
def bareClauses : Pattern :=
  wordEdge ++ "for" ++ gap ++
  keep 1 (many (butNot "\x7b;\n") ++ ";" ++ many (butNot "\x7b;\n") ++ ";" ++
    few (butNot "\x7b\n")) ++
  blanks ++ "\x7b"

def bareClauseHeader (found : Match) : ClauseHeader :=
  ⟨found.start, found.stop, found.group 1, found.last.block?⟩

/-- A loop over a range, up to the bracket that opens the range's arguments. -/
def rangeLoopOpening : Pattern :=
  lineStart ++ many indent ++ "for" ++ gap ++ keep 1 wordRun ++ gap ++ "in" ++ gap ++ "range" ++
  blanks ++ "("

/-- The loop over a range that a match opens, if its arguments state a count. -/
def rangeLoop? (found : Match) : Option Loop := do
  let close ← found.last.matchingClose?
  let colon ← close.find? [':']
  let count ← rangeCount? (found.stop.textUpTo close)
  return {
    kind := .counter
    trip := count.trip
    direction := count.direction
    counter? := some (found.group 1)
    collection? := none
    header := found.start.skipBlank.spanUpTo colon.next
    body? := colon.suite?.map Piece.span }

/-- A loop over a sequence in brackets, up to the sequence; the bracket is kept. -/
def sequenceLoopOpening : Pattern :=
  wordEdge ++ "for" ++ blanks ++ keep 2 "(" ++ blanks ++ keep 1 wordRun ++ gap ++ "in" ++ gap

structure SequenceHeader where
  start : Cursor
  stop : Cursor
  counter : Text
  sequence : Text

/-- The header that a match opens, if its bracket is closed. -/
def sequenceHeader? (found : Match) : Option SequenceHeader := do
  let bracket ← found.piece? 2
  let close ← bracket.start.matchingClose?
  return ⟨found.start, close.next, found.group 1, Text.trim (found.stop.textUpTo close)⟩

/-- All headers of loops over sequences that start at or behind a position. -/
def sequenceHeaders (masked : Text) (least : Nat) : List SequenceHeader :=
  ((sequenceLoopOpening.findAll masked).filterMap sequenceHeader?).filter fun header =>
    least ≤ header.start.offset

/-- What stands between a call's name with its opening bracket and the closing bracket at the end,
if an expression is such a call. -/
def callInside? (name expression : Text) : Option Text :=
  if name.isPrefixOf expression && (expression.drop name.length).getLast? = some ')' then
    some (expression.drop name.length).dropLast
  else none

def argumentValue (argument : Text) : Text :=
  match argument.dropWhile (· ≠ '=') with
  | [] => argument
  | _ :: value => Text.trim value

/-- The count of a sequence given by its ends and perhaps a step. -/
def steppedCount? (arguments : List Text) : Option Count :=
  match arguments.take 3 with
  | [first, last] => sequenceCount? first last
  | [first, last, step] => do
      let step ← Text.signed? step
      if 0 < step then countTo? first .lessOrEqual last (.up step.natAbs)
      else countTo? first .greaterOrEqual last (.down step.natAbs)
  | _ => none

/-- The count that a sequence states: two ends around a colon, the numbers up to a length, or a
call with two ends and perhaps a step. -/
def sequenceTextCount? (sequence : Text) : Option Count :=
  let byColon := match Text.splitOutside ':' sequence with
    | [first, last] => sequenceCount? first last
    | _ => none
  let byLength := (callInside? "seq_len(".toList sequence).bind fun length =>
    countTo? ['1'] .lessOrEqual length (.up 1)
  let byEnds := (callInside? "seq(".toList sequence).bind fun arguments =>
    steppedCount? ((Text.arguments arguments).map fun (_, argument) => argumentValue argument)
  (byColon.or byLength).or byEnds

/-- The loop of a header whose sequence states a count. -/
def sequenceLoop? (header : SequenceHeader) : Option Loop := do
  let count ← sequenceTextCount? header.sequence
  return {
    kind := .counter
    trip := count.trip
    direction := count.direction
    counter? := some header.counter
    collection? := none
    header := header.start.spanUpTo header.stop
    body? := (header.stop.bodyAfter? true).map Piece.span }

/-- The first counting loop of masked source whose header starts at or behind a position. -/
def Language.counterLoop? (language : Language) (masked : Text) (least : Nat) : Option Loop :=
  match language with
  | .python =>
      ((rangeLoopOpening.findAll masked).filter fun found => least ≤ found.start.offset).findSome?
        rangeLoop?
  | .go => firstClauseLoop? least ((bareClauses.findAll masked).map bareClauseHeader)
  | .r => (sequenceHeaders masked least).findSome? sequenceLoop?
  | .sql => none
  | _ => firstClauseLoop? least ((forOpening.findAll masked).filterMap bracketedClauses?)

end InputDemand
