import InputDemand.Loop.Linear
import InputDemand.Pattern.Search
import InputDemand.Source.Brackets

/-!
# Trip counts of counting loops

A counter starts at a value, is compared with a limit and moves by a step.  The step has to move
it towards the limit; a header in which it does not states no count.  The count is the distance
from the near end to the far end: the near end has to be a number, the far end may hold the name
whose value decides.
-/

namespace InputDemand

open Pattern

inductive Comparison where
  | less
  | lessOrEqual
  | greater
  | greaterOrEqual
  | notEqual
deriving DecidableEq, Repr

namespace Comparison

/-- The comparison that a sign stands for; any other sign is read as an inequality. -/
def ofSign (sign : Text) : Comparison :=
  if sign = ['<'] then less
  else if sign = ['<', '='] then lessOrEqual
  else if sign = ['>'] then greater
  else if sign = ['>', '='] then greaterOrEqual
  else notEqual

def flip : Comparison → Comparison
  | less => greater
  | lessOrEqual => greaterOrEqual
  | greater => less
  | greaterOrEqual => lessOrEqual
  | notEqual => notEqual

end Comparison

inductive Step where
  | up (amount : Nat)
  | down (amount : Nat)
deriving DecidableEq, Repr

structure Count where
  trip : Trip
  direction : Direction
deriving DecidableEq, Repr

/-- The trip count from the near end to the far end of a range, plus `extra`.  It is unknown if the
near end is not a number, the far end is no linear expression, or the distance does not fit. -/
def tripBetween (near far : Text) (extra : Int) (stride : Nat) : Trip :=
  let unknown : Trip := ⟨.unknown (Text.trim far), 0, stride⟩
  match Linear.ofText? near, Linear.ofText? far with
  | some ⟨none, first⟩, some ⟨name?, constant⟩ =>
      match (signed? (constant - first)).bind fun distance => signed? (distance + extra) with
      | none => unknown
      | some distance =>
          match name? with
          | none => ⟨.literal distance, 0, stride⟩
          | some name => ⟨.name name, distance, stride⟩
  | _, _ => unknown

/-- The count of a counter that runs from `start` while it compares with `limit`; nothing if the
step does not lead towards the limit or is zero. -/
def countTo? (start : Text) (comparison : Comparison) (limit : Text) (step : Step) :
    Option Count :=
  match comparison, step with
  | _, .up 0 => none
  | _, .down 0 => none
  | .less, .up stride => some ⟨tripBetween start limit 0 stride, .ascending⟩
  | .notEqual, .up stride => some ⟨tripBetween start limit 0 stride, .ascending⟩
  | .lessOrEqual, .up stride => some ⟨tripBetween start limit 1 stride, .ascending⟩
  -- Downwards the limit is the near end.
  | .greater, .down stride => some ⟨tripBetween limit start 0 stride, .descending⟩
  | .notEqual, .down stride => some ⟨tripBetween limit start 0 stride, .descending⟩
  | .greaterOrEqual, .down stride => some ⟨tripBetween limit start 1 stride, .descending⟩
  | _, _ => none

/-- A step of a signed amount, if the amount fits. -/
def signedStep? (sign : Char) (digits : Text) : Option Step :=
  (Text.unsigned? digits).map fun amount => if sign = '+' then .up amount else .down amount

def readSigned? : Text → Option (Char × Text)
  | sign :: more =>
      let digits := more.dropWhile isBlank
      if (sign = '+' || sign = '-') && Text.allDecimal digits then some (sign, digits) else none
  | [] => none

def doubledSign? (text : Text) : Option Step :=
  if text = ['+', '+'] then some (.up 1)
  else if text = ['-', '-'] then some (.down 1)
  else none

/-- The step that a statement makes with `counter`: a doubled sign on either side of it, a signed
assignment, or an assignment of the counter with a number added or subtracted. -/
def stepOf? (statement counter : Text) : Option Step := do
  let text := Text.trim statement
  match doubledSign? (text.take 2) with
  | some step =>
      let (name, []) ← Text.readName? ((text.drop 2).dropWhile isBlank) | none
      if name = counter then some step else none
  | none =>
      let (name, rest) ← Text.readName? text
      if name ≠ counter then none
      match rest.dropWhile isBlank with
      -- The counter itself with a signed number.
      | '=' :: rest =>
          let (same, rest) ← Text.readName? (rest.dropWhile isBlank)
          if same ≠ counter then none
          let (sign, digits) ← readSigned? (rest.dropWhile isBlank)
          signedStep? sign digits
      -- A signed assignment.
      | sign :: '=' :: rest =>
          let (sign, digits) ← readSigned? (sign :: rest)
          signedStep? sign digits
      | rest => doubledSign? rest

/-- The first clause of a header: words of a type, the counter, the assigned start. -/
def startClause : Pattern :=
  textStart ++
  many (wordRun ++ many ("::" ++ wordRun) ++ optional ("<" ++ many (butNot ">") ++ ">") ++
    optional (among "*&") ++ gap) ++
  keep 1 (optional "$" ++ Pattern.name) ++
  blanks ++ optional (":" ++ blanks ++ wordRun ++ blanks) ++ optional ":" ++ "=" ++ blanks ++
  keep 2 (some1 inLine) ++ textEnd

/-- A condition with the counter on its left. -/
def condition : Pattern :=
  textStart ++ keep 1 (optional "$" ++ Pattern.name) ++ blanks ++
  keep 2 (oneOf ["<=", ">=", "!=", "<", ">"]) ++ blanks ++ keep 3 (some1 inLine) ++ textEnd

/-- A condition with the counter on its right. -/
def flippedCondition : Pattern :=
  textStart ++ keep 1 (few1 inLine) ++ blanks ++ keep 2 (oneOf ["<=", ">=", "<", ">"]) ++ blanks ++
  keep 3 (optional "$" ++ Pattern.name) ++ textEnd

/-- How a condition compares `counter`, and with what. -/
def comparisonOf? (clause counter : Text) : Option (Comparison × Text) :=
  match (condition.find? clause).filter fun found => Text.bareName (found.group 1) = counter with
  | some found => some (Comparison.ofSign (found.group 2), found.group 3)
  | none => do
      let found ← flippedCondition.find? clause
      if Text.bareName (found.group 3) ≠ counter then none
      return ((Comparison.ofSign (found.group 2)).flip, found.group 1)

structure CounterHeader where
  counter : Text
  count : Count
deriving DecidableEq, Repr

/-- Reads a header of three clauses between semicolons: start, condition and step.  All three have
to name the same counter. -/
def counterHeader? (header : Text) : Option CounterHeader := do
  let [first, second, third] := (Text.splitOutside ';' header).map Text.trim | none
  let start ← startClause.find? first
  let counter := Text.bareName (start.group 1)
  let (comparison, limit) ← comparisonOf? second counter
  let step ← stepOf? third counter
  let count ← countTo? (start.group 2) comparison limit step
  return ⟨counter, count⟩

/-- The count of a range given by its arguments: the end, or start and end, or start, end and a
step, which runs downwards unless it is positive. -/
def rangeCount? (arguments : Text) : Option Count :=
  match (Text.arguments arguments).map Prod.snd with
  | [stop] => countTo? ['0'] .less stop (.up 1)
  | [start, stop] => countTo? start .less stop (.up 1)
  | [start, stop, step] => do
      let step ← Text.signed? (step.filter (· ≠ ' '))
      if 0 < step then countTo? start .less stop (.up step.natAbs)
      else countTo? start .greater stop (.down step.natAbs)
  | _ => none

/-- The count of a sequence that includes both its ends.  It runs downwards from a greater number
to a smaller one, and from a start with a name to an end that is a linear expression. -/
def sequenceCount? (first last : Text) : Option Count :=
  let upwards := countTo? first .lessOrEqual last (.up 1)
  let downwards := countTo? first .greaterOrEqual last (.down 1)
  match Linear.ofText? first, Linear.ofText? last with
  | some ⟨none, low⟩, some ⟨none, high⟩ => if low ≤ high then upwards else downwards
  | some ⟨some _, _⟩, some _ => downwards
  | _, _ => upwards

end InputDemand
