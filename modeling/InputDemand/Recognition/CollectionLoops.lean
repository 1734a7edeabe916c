import InputDemand.Loop.Collection
import InputDemand.Recognition.Calls
import InputDemand.Recognition.CounterLoops

/-!
# Loops over collections

Loops that run once for every element of a collection.  In every pattern for a header the element
variable is kept under the number one and the collection under the number two.
-/

namespace InputDemand

open Pattern

/-- How a language writes a loop over a collection in brackets: the keyword up to the bracket, and
the text inside the brackets. -/
structure ElementHeader where
  opening : Pattern
  inside : Pattern

/-- A class of type characters: word characters and the listed others, and blanks if wanted. -/
def typeLetter (others : String) (blanksToo : Bool) : Pattern :=
  letter fun found => isWord found || others.toList.contains found || (blanksToo && isBlank found)

/-- An element declared as a constant or variable, perhaps with a type, of or in a collection. -/
def declaredElement : Pattern :=
  textStart ++ oneOf ["const", "let", "var"] ++ gap ++ keep 1 wordRun ++
  optional (blanks ++ ":" ++ blanks ++ some1 (typeLetter "<>[]" false)) ++ gap ++
  oneOf ["of", "in"] ++ gap ++ keep 2 (some1 inLine) ++ textEnd

/-- An element declared with its type, perhaps by reference, a colon, and a collection. -/
def referencedElement : Pattern :=
  textStart ++ optional ("const" ++ gap) ++ few1 (typeLetter ":<>," true) ++
  some1 (letter fun found => isBlank found || found = '&' || found = '*') ++ keep 1 wordRun ++
  blanks ++ ":" ++ blanks ++ keep 2 (butNot ":" ++ many inLine) ++ textEnd

/-- An element declared with its type, a colon, and a collection. -/
def typedElement : Pattern :=
  textStart ++ optional ("final" ++ gap) ++ few1 (typeLetter "<>[].,?" true) ++ gap ++
  keep 1 wordRun ++ blanks ++ ":" ++ blanks ++ keep 2 (some1 inLine) ++ textEnd

/-- A collection as a value variable, perhaps with a key variable. -/
def collectionAsElement : Pattern :=
  textStart ++ keep 2 (few1 inLine) ++ gap ++ "as" ++ gap ++
  optional ("$" ++ wordRun ++ blanks ++ "=>" ++ blanks) ++ optional "&" ++ "$" ++ keep 1 wordRun ++
  textEnd

/-- How the languages with brackets around headers write loops over collections. -/
def Language.elementHeader? : Language → Option ElementHeader
  | .javascript | .typescript => some ⟨forOpening, declaredElement⟩
  | .cpp => some ⟨forOpening, referencedElement⟩
  | .java => some ⟨forOpening, typedElement⟩
  | .php => some ⟨wordEdge ++ "foreach" ++ blanks ++ "(", collectionAsElement⟩
  | _ => none

/-- The loop over a collection whose header opens at a match, if its inside is of that form. -/
def bracketedElementLoop? (masked : Text) (inside : Pattern) (found : Match) : Option Loop := do
  let close ← found.last.matchingClose?
  let header := Text.trim (found.stop.textUpTo close)
  if header.contains ';' then none
  let parts ← inside.find? header
  let collection := Text.trim (parts.group 2)
  return {
    kind := .collection
    trip := collectionTrip masked collection
    direction := .ascending
    counter? := some (parts.group 1)
    collection? := some collection
    header := found.start.spanUpTo close.next
    body? := (close.next.bodyAfter? false).map Piece.span }

/-- A header without brackets that names elements and a collection, up to the colon. -/
def eachLoopHeader : Pattern :=
  lineStart ++ many indent ++ "for" ++ gap ++
  keep 1 (few1 (letter fun found => isWord found || found = ',' || found = ' ')) ++ gap ++
  "in" ++ gap ++ keep 2 (few1 inLine) ++ blanks ++ ":"

def lastName (names : Text) : Text :=
  Text.trim (names.reverse.takeWhile (· ≠ ',')).reverse

/-- The loop that such a header opens, unless it goes through a range. -/
def eachLoop? (masked : Text) (found : Match) : Option Loop :=
  let collection := Text.trim (found.group 2)
  if "range".toList.isPrefixOf collection then none
  else some {
    kind := .collection
    trip := collectionTrip masked collection
    direction := .ascending
    counter? := some (lastName (found.group 1))
    collection? := some collection
    header := found.start.skipBlank.spanUpTo found.stop
    body? := found.last.suite?.map Piece.span }

/-- A header that ranges over a collection, up to the brace that opens the body; the key and the
element are kept under three and one. -/
def rangeClause : Pattern :=
  wordEdge ++ "for" ++ gap ++
  optional (keep 3 wordRun ++ blanks ++ optional ("," ++ blanks ++ keep 1 wordRun ++ blanks) ++
    optional ":" ++ "=" ++ blanks) ++
  "range" ++ gap ++ keep 2 (few1 (butNot "\x7b\n")) ++ blanks ++ "\x7b"

/-- The count of a loop that ranges over an expression.  A number counts by itself.  A name that is
not declared as a collection counts by its value if the program reads or assigns that. -/
def rangedTrip (source masked collection : Text) : Except Misplaced Trip := do
  match Linear.ofText? collection with
  | some ⟨none, count⟩ => return Trip.literal count
  | some ⟨some name, constant⟩ =>
      let sites ← Language.reads .go source
      let read := sites.any fun site => site.target? = some name
      let assigned := (numberBindings masked).any fun binding => binding.name = name
      if (collectionSize? masked name).isNone && (read || assigned) then
        return ⟨.name name, constant, 1⟩
      else return collectionTrip masked collection
  | none => return collectionTrip masked collection

def rangedLoop (source masked : Text) (found : Match) : Except Misplaced Loop := do
  let collection := Text.trim (found.group 2)
  return {
    kind := .collection
    trip := ← rangedTrip source masked collection
    direction := .ascending
    counter? := ((found.piece? 1).or (found.piece? 3)).map Piece.text
    collection? := some collection
    header := found.span
    body? := found.last.block?.map Piece.span }

/-- The loop over the elements of a sequence that states no count. -/
def sequenceElementLoop? (masked : Text) (header : SequenceHeader) : Option Loop :=
  match sequenceTextCount? header.sequence with
  | some _ => none
  | none =>
      let collection := (callInside? "seq_along(".toList header.sequence).getD header.sequence
      some {
        kind := .collection
        trip := collectionTrip masked collection
        direction := .ascending
        counter? := some header.counter
        collection? := some collection
        header := header.start.spanUpTo header.stop
        body? := (header.stop.bodyAfter? true).map Piece.span }

/-- The first loop over a collection whose header starts at or behind a position. -/
def Language.collectionLoop? (language : Language) (source masked : Text) (least : Nat) :
    Except Misplaced (Option Loop) :=
  let behind := fun (found : Match) => decide (least ≤ found.start.offset)
  match language with
  | .python => return ((eachLoopHeader.findAll masked).filter behind).findSome? (eachLoop? masked)
  | .go =>
      match (rangeClause.findAll masked).find? behind with
      | none => return none
      | some found => some <$> rangedLoop source masked found
  | .r => return (sequenceHeaders masked least).findSome? (sequenceElementLoop? masked)
  | _ =>
      match language.elementHeader? with
      | none => return none
      | some header =>
          return ((header.opening.findAll masked).filter behind).findSome?
            (bracketedElementLoop? masked header.inside)

end InputDemand
