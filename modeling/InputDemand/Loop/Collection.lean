import InputDemand.Loop.Linear
import InputDemand.Pattern.Search
import InputDemand.Source.Brackets

/-!
# Trip counts of loops over collections

The number of elements of a collection, read off its declaration: a sized allocation states a size,
a list of elements is counted.  A list without elements is taken to be filled later, so its
declaration states nothing.
-/

namespace InputDemand

open Pattern

def wholeName (name : Text) : Pattern :=
  wordEdge ++ Pattern.word name

def bracketed (inside : Pattern) : Pattern :=
  "[" ++ blanks ++ inside ++ "]"

/-- A type behind a colon, up to the sign of assignment on the same line. -/
def typeAnnotation : Pattern :=
  optional (":" ++ some1 (butNot "=\n"))

/-- Declarations of `name` that state its size, which they keep under the number one: an array
allocation, a slice allocation, a repeated list, an array of a basic type, an array variable. -/
def sizedDeclarations (name : Text) : List Pattern := [
  optional "$" ++ wholeName name ++ blanks ++ optional (bracketed nothing) ++ blanks ++
    typeAnnotation ++ "=" ++ blanks ++ "new" ++ gap ++
    some1 (letter fun found => isWord found || "<>.".toList.contains found) ++ blanks ++
    bracketed (keep 1 (some1 (butNot "]"))),
  wholeName name ++ blanks ++ optional ":" ++ "=" ++ blanks ++ "make" ++ blanks ++ "(" ++ blanks ++
    "[]" ++ some1 (letter fun found => isWord found || found = '.') ++ blanks ++ "," ++ blanks ++
    keep 1 (some1 (butNot ",)")),
  wholeName name ++ blanks ++ "=" ++ blanks ++ "[" ++ many (butNot "]") ++ "]" ++ blanks ++ "*" ++
    blanks ++ keep 1 wordRun,
  wordEdge ++
    oneOf ["int", "char", "float", "double", "long", "short", "bool", "string", "auto",
      "unsigned"] ++
    gap ++ Pattern.word name ++ blanks ++ bracketed (keep 1 (some1 (butNot "]"))),
  wordEdge ++ "var" ++ gap ++ Pattern.word name ++ gap ++
    bracketed (keep 1 wordRun ++ blanks)]

/-- A declaration of `name` by a list of elements, up to the bracket that opens the list. -/
def listDeclaration (name : Text) : Pattern :=
  optional "$" ++ wholeName name ++ blanks ++
  optional (bracketed (many wordLetter ++ blanks)) ++ blanks ++
  typeAnnotation ++ oneOf [":=", "=", "<-"] ++ blanks ++
  optional (oneOf [
    "new" ++ gap ++ some1 (letter fun found => isWord found || "<>.".toList.contains found) ++
      blanks ++ bracketed nothing ++ blanks,
    bracketed (many (letter isDecimal) ++ blanks) ++
      some1 (letter fun found => isWord found || found = '.') ++ blanks,
    "array" ++ blanks,
    "c" ++ blanks,
    "list" ++ blanks,
    "Arrays.asList" ++ blanks,
    "List.of" ++ blanks]) ++
  among "[(\x7b"

/-- The count that the first declaration of a list of elements states, if it has any. -/
def listedSize? (masked name : Text) : Option Trip := do
  let found ← (listDeclaration name).find? masked
  let close ← found.last.matchingClose?
  let count := (Text.arguments (found.stop.textUpTo close)).length
  if count = 0 then none else some (Trip.literal count)

def collectionSize? (masked name : Text) : Option Trip :=
  let name := Text.bareName name
  match (sizedDeclarations name).findSome? fun declaration => declaration.find? masked with
  | some found => (Linear.ofText? (found.group 1)).map Linear.trip
  | none => listedSize? masked name

/-- The count of a loop over an expression: the declared size of a named collection, the number of
elements of a list written in place, or else unknown. -/
def collectionTrip (masked expression : Text) : Trip :=
  let expression := Text.trim expression
  let name := Text.bareName expression
  if Text.isName name then (collectionSize? masked name).getD (Trip.unknown expression)
  else
    let place := (Cursor.start expression).skipWhile fun letter => !opens letter
    let head := Text.trim place.before.reverse
    match place.matchingClose? with
    | none => Trip.unknown expression
    | some close =>
        if close.next.rest.isEmpty &&
            ["", "c", "array", "list"].any fun maker => maker.toList = head then
          Trip.literal (Text.arguments (place.next.textUpTo close)).length
        else Trip.unknown expression

end InputDemand
