import InputDemand.Text.CharClass
import InputDemand.Loop.Basic

/-!
# Expressions in one variable

A number, a name, or a name plus or minus a number, perhaps in parentheses.  These are the
expressions whose value follows from the value of the name.
-/

namespace InputDemand

namespace Text

def dropSigil : Text → Text
  | '$' :: rest => rest
  | rest => rest

/-- Splits off a name at the front, which may carry a dollar sign: an ASCII letter or underscore
and all word characters behind it. -/
def readName? (text : Text) : Option (Text × Text) :=
  match dropSigil text with
  | [] => none
  | first :: more =>
      if isNameStart first then some (first :: more.takeWhile isWord, more.dropWhile isWord)
      else none

/-- Whether a text consists of decimal digits of any script, at least one. -/
def allDecimal (text : Text) : Bool :=
  !text.isEmpty && text.all isDecimal

/-- A text without one pair of parentheses around it, nor blanks around or inside them. -/
def stripParentheses : Nat → Text → Text
  | 0, text => text
  | rounds + 1, text =>
      if text.head? = some '(' && text.getLast? = some ')' then
        stripParentheses rounds (trim (text.drop 1).dropLast)
      else text

end Text

/-- The value of `name` plus `constant`, or just `constant` if there is no name. -/
structure Linear where
  name? : Option Text
  constant : Int
deriving DecidableEq, Repr

namespace Linear

/-- Words that look like names but are values. -/
def reserved : List Text :=
  ["true", "false", "null", "None", "nil", "NULL"].map String.toList

/-- Reads a name with an optional signed number behind it. -/
def ofNameFirst? (text : Text) : Option Linear := do
  let (name, rest) ← Text.readName? text
  let constant ← match rest.dropWhile isBlank with
    | [] => some 0
    | sign :: more =>
        let digits := more.dropWhile isBlank
        if (sign = '+' || sign = '-') && Text.allDecimal digits then
          (Text.signed? digits).map fun amount => if sign = '-' then -amount else amount
        else none
  if reserved.contains name then none else some ⟨some name, constant⟩

/-- Reads a number with a name added to it. -/
def ofNumberFirst? (text : Text) : Option Linear := do
  let digits := text.takeWhile isDecimal
  let '+' :: rest := (text.dropWhile isDecimal).dropWhile isBlank | none
  let (name, []) ← Text.readName? (rest.dropWhile isBlank) | none
  let constant ← Text.signed? digits
  return ⟨some name, constant⟩

/-- Reads an expression; nothing if it is of any other form or its number does not fit. -/
def ofText? (expression : Text) : Option Linear :=
  let trimmed := Text.trim expression
  -- Every round takes two characters, so the length is enough rounds.
  let text := Text.stripParentheses trimmed.length trimmed
  match Text.signed? text with
  | some value => some ⟨none, value⟩
  | none => (ofNameFirst? text).orElse fun _ => ofNumberFirst? text

def trip (linear : Linear) : Trip :=
  match linear.name? with
  | none => Trip.literal linear.constant
  | some name => ⟨.name name, linear.constant, 1⟩

end Linear

end InputDemand
