import InputDemand.Pattern.Search
import InputDemand.Text.Integer

/-!
# Names that receive values

The variable that an input call is assigned to, the variable that a destination argument names,
and the assignments of whole numbers, on masked source.
-/

namespace InputDemand

open Pattern

def sigilName : Pattern :=
  optional "$" ++ Pattern.name

namespace Cursor

/-- The start of the statement that the place is in. -/
def statementStart (place : Cursor) : Cursor :=
  place.backWhile fun letter =>
    letter ≠ '\n' && letter ≠ ';' && letter ≠ '\x7b' && letter ≠ '\x7d'

end Cursor

/-- The front of an assignment, up to the call whose value is assigned: a name, further names
behind commas, an index, a type, the sign of assignment, a cast, and calls that wrap the value. -/
def assignmentFront : Pattern :=
  keep 1 sigilName ++
  many (blanks ++ "," ++ blanks ++ optional "$" ++ wordRun) ++
  blanks ++
  optional ("[" ++ many (butNot "]") ++ "]" ++ blanks) ++
  optional (":" ++ blanks ++
    some1 (letter fun found => isWord found || "[]<>".toList.contains found) ++ blanks) ++
  oneOf ["=", "<-", ":="] ++
  blanks ++
  optional ("(" ++ blanks ++ wordRun ++ blanks ++ ")" ++ blanks) ++
  many (letter isNameStart ++
    many (letter fun found => isWord found || found = '.' || found = ':') ++
    blanks ++ "(" ++ blanks) ++
  textEnd

/-- The variable that receives the value of the call at a place. -/
def assignedName? (call : Cursor) : Option Text :=
  (assignmentFront.find? (call.statementStart.textUpTo call)).map fun found =>
    Text.bareName (found.group 1)

/-- The variable that a destination argument names, without address signs and indices. -/
def destinationName? (argument : Text) : Option Text :=
  let sign := fun (letter : Char) => letter ∈ ['&', '*', '$', ' ']
  let bare := Text.trimLeftBy sign (Text.trim argument)
  let name := bare.takeWhile fun letter => isAlphanumeric letter || letter = '_'
  if Text.isName name then some name else none

/-- A whole number assigned to a name, with the position of the name. -/
structure Binding where
  name : Text
  value : Int
  offset : Nat
deriving DecidableEq, Repr

def wholeNumber : Pattern :=
  optional "-" ++ digitRun

/-- An assignment of a whole number at the start of a line or behind punctuation: words such as a
type, the name, a type behind a colon, the sign of assignment, the number, the end. -/
def numberAssignment : Pattern :=
  orElse lineStart (among ";\x7b(,") ++
  many indent ++
  many (some1 (letter fun found => isWord found || "<>[]".toList.contains found) ++ some1 indent) ++
  optional "$" ++
  keep 1 Pattern.name ++
  many indent ++
  optional (":" ++ many indent ++ wordRun ++ many indent) ++
  oneOf [":=", "=", "<-"] ++
  many indent ++
  keep 2 wholeNumber ++
  many indent ++
  optional "\r" ++
  oneOf [";", ",", ")", lineEnd]

/-- A definition of a number for the preprocessor, on a line of its own. -/
def numberDefinition : Pattern :=
  lineStart ++ many indent ++ "#define" ++ some1 indent ++ keep 1 wordRun ++ some1 indent ++
  keep 2 wholeNumber ++ many indent ++ lineEnd

/-- The binding that a match of one of the two patterns states, if its number fits. -/
def bindingOf? (found : Match) : Option Binding := do
  let name ← found.piece? 1
  let value ← Text.signed? (found.group 2)
  return ⟨name.text, value, name.start.offset⟩

def numberBindings (masked : Text) : List Binding :=
  let found := numberAssignment.findAll masked ++ numberDefinition.findAll masked
  (found.filterMap bindingOf?).mergeSort fun first second => first.offset ≤ second.offset

end InputDemand
