import InputDemand.Json.Basic
import InputDemand.Text.Integer

/-!
# Reading JSON

The value that a text is the JSON form of, and the fields of a record: an object with each known
field at most once, or an array of the fields in their order.
-/

namespace InputDemand

namespace Json

def isSpace (letter : Char) : Bool :=
  letter = ' ' || letter = '\n' || letter = '\t' || letter = '\r'

def skipSpace (text : Text) : Text :=
  text.dropWhile isSpace

def hexValue? (letter : Char) : Option Nat :=
  if letter.isDigit then some (letter.toNat - '0'.toNat)
  else if 'a' ≤ letter && letter ≤ 'f' then some (letter.toNat - 'a'.toNat + 10)
  else if 'A' ≤ letter && letter ≤ 'F' then some (letter.toNat - 'A'.toNat + 10)
  else none

def hexUnit? (first second third fourth : Char) : Option Nat := do
  let first ← hexValue? first
  let second ← hexValue? second
  let third ← hexValue? third
  let fourth ← hexValue? fourth
  return ((first * 16 + second) * 16 + third) * 16 + fourth

def escaped? (letter : Char) : Option Char :=
  if letter = '"' || letter = '\\' || letter = '/' then some letter
  else if letter = 'b' then some '\x08'
  else if letter = 'f' then some '\x0c'
  else if letter = 'n' then some '\n'
  else if letter = 'r' then some '\r'
  else if letter = 't' then some '\t'
  else none

/-- The units of a string up to its closing quote, and the text behind it.  A numbered escape gives
a unit of 16 bits, any other character its code point. -/
def units? : Text → Option (List Nat × Text)
  | [] => none
  | '"' :: rest => some ([], rest)
  | '\\' :: 'u' :: first :: second :: third :: fourth :: rest => do
      let unit ← hexUnit? first second third fourth
      let (units, rest) ← units? rest
      return (unit :: units, rest)
  | '\\' :: letter :: rest => do
      let found ← escaped? letter
      let (units, rest) ← units? rest
      return (found.toNat :: units, rest)
  | letter :: rest => do
      -- A backslash comes here only at the very end of the text.
      if letter.toNat < 32 || letter = '\\' then none
      let (units, rest) ← units? rest
      return (letter.toNat :: units, rest)

def isHighHalf (unit : Nat) : Bool :=
  0xD800 ≤ unit && unit < 0xDC00

def isLowHalf (unit : Nat) : Bool :=
  0xDC00 ≤ unit && unit < 0xE000

/-- The characters of units, with surrogate pairs put together; nothing if a half is left over. -/
def textOfUnits? : List Nat → Option Text
  | [] => some []
  | [unit] => if isHighHalf unit || isLowHalf unit then none else some [Char.ofNat unit]
  | unit :: next :: units =>
      if isHighHalf unit then
        if isLowHalf next then
          (textOfUnits? units).map fun text =>
            Char.ofNat (0x10000 + (unit - 0xD800) * 0x400 + (next - 0xDC00)) :: text
        else none
      else if isLowHalf unit then none
      else (textOfUnits? (next :: units)).map fun text => Char.ofNat unit :: text

/-- A string behind its opening quote, and the text behind its closing quote. -/
def string? (text : Text) : Option (Option Text × Text) :=
  (units? text).map fun (units, rest) => (textOfUnits? units, rest)

def digits? (text : Text) : Option (Text × Text) :=
  let digits := text.takeWhile Char.isDigit
  if digits.isEmpty then none else some (digits, text.dropWhile Char.isDigit)

/-- The whole part of a number: a zero alone, or digits that start with another one. -/
def whole? : Text → Option (Text × Text)
  | '0' :: rest => some (['0'], rest)
  | text => digits? text

def fraction? : Text → Option (Text × Text)
  | '.' :: rest => (digits? rest).map fun (digits, rest) => ('.' :: digits, rest)
  | rest => some ([], rest)

def exponent? : Text → Option (Text × Text)
  | letter :: rest =>
      if letter = 'e' || letter = 'E' then
        match rest with
        | '+' :: rest => (digits? rest).map fun (digits, rest) => (letter :: '+' :: digits, rest)
        | '-' :: rest => (digits? rest).map fun (digits, rest) => (letter :: '-' :: digits, rest)
        | rest => (digits? rest).map fun (digits, rest) => (letter :: digits, rest)
      else some ([], letter :: rest)
  | [] => some ([], [])

/-- A number as it is written, and the text behind it. -/
def number? (text : Text) : Option (Text × Text) := do
  let (sign, rest) := match text with
    | '-' :: rest => (['-'], rest)
    | rest => ([], rest)
  let (whole, rest) ← whole? rest
  let (fraction, rest) ← fraction? rest
  let (exponent, rest) ← exponent? rest
  return (sign ++ whole ++ fraction ++ exponent, rest)

mutual

/-- A value at the start of a text, and the text behind it; nested at most `depth` steps deep. -/
def value? (depth : Nat) (text : Text) : Option (Json × Text) :=
  match depth with
  | 0 => none
  | depth + 1 =>
      match skipSpace text with
      | '"' :: rest => (string? rest).map fun (text?, rest) => (string text?, rest)
      | '[' :: rest =>
          match skipSpace rest with
          | ']' :: rest => some (array [], rest)
          | rest => (items? depth rest).map fun (items, rest) => (array items, rest)
      | '\x7b' :: rest =>
          match skipSpace rest with
          | '\x7d' :: rest => some (object [], rest)
          | rest => (fields? depth rest).map fun (fields, rest) => (object fields, rest)
      | 'n' :: 'u' :: 'l' :: 'l' :: rest => some (null, rest)
      | 't' :: 'r' :: 'u' :: 'e' :: rest => some (bool true, rest)
      | 'f' :: 'a' :: 'l' :: 's' :: 'e' :: rest => some (bool false, rest)
      | rest => (number? rest).map fun (literal, rest) => (number literal, rest)

/-- The items of an array up to its closing bracket, at least one. -/
def items? (depth : Nat) (text : Text) : Option (List Json × Text) :=
  match depth with
  | 0 => none
  | depth + 1 =>
      match value? depth text with
      | none => none
      | some (item, rest) =>
          match skipSpace rest with
          | ']' :: rest => some ([item], rest)
          | ',' :: rest => (items? depth rest).map fun (items, rest) => (item :: items, rest)
          | _ => none

/-- The fields of an object up to its closing brace, at least one. -/
def fields? (depth : Nat) (text : Text) : Option (List (Option Text × Json) × Text) :=
  match depth with
  | 0 => none
  | depth + 1 =>
      match skipSpace text with
      | '"' :: rest =>
          match string? rest with
          | none => none
          | some (name?, rest) =>
              match skipSpace rest with
              | ':' :: rest =>
                  match value? depth rest with
                  | none => none
                  | some (value, rest) =>
                      match skipSpace rest with
                      | '\x7d' :: rest => some ([(name?, value)], rest)
                      | ',' :: rest =>
                          (fields? depth rest).map fun (fields, rest) =>
                            ((name?, value) :: fields, rest)
                      | _ => none
              | _ => none
      | _ => none

end

/-- The value whose JSON form a text is, blanks around it apart.  Every two steps of depth take a
character, so the bound on the depth is never reached. -/
def ofText? (text : Text) : Option Json :=
  match value? (2 * text.length + 2) text with
  | some (value, rest) => if (skipSpace rest).isEmpty then some value else none
  | none => none

def text? : Json → Option Text
  | string text? => text?
  | _ => none

def bool? : Json → Option Bool
  | bool flag => some flag
  | _ => none

/-- The whole number below two to the 64th that is written without sign, point and exponent. -/
def unsigned? : Json → Option Nat
  | number literal => if literal.all Char.isDigit then Text.unsigned? literal else none
  | _ => none

/-- Every item of an array, if all of them are of a kind. -/
def listOf? {Item : Type} (read : Json → Option Item) : Json → Option (List Item)
  | array items => items.mapM read
  | _ => none

/-- The only field with a name, if there is one.  Nothing at all if the name stands twice. -/
def lookup? (name : Text) (fields : List (Option Text × Json)) : Option (Option Json) :=
  match fields.filter fun (given?, _) => given? = some name with
  | [] => some none
  | [(_, value)] => some (some value)
  | _ => none

/-- The values of the named fields of a record, each if it is given.  Nothing at all if the value
is no record: fields that are not known are passed over, but their names have to be texts. -/
def record? (names : List Text) : Json → Option (List (Option Json))
  | object fields =>
      if fields.all fun (name?, _) => name?.isSome then names.mapM fun name => lookup? name fields
      else none
  -- The values may also stand in a list, in the order of the names; the last ones may be missing.
  | array items =>
      if items.length ≤ names.length then
        some (items.map some ++ List.replicate (names.length - items.length) none)
      else none
  | _ => none

/-- What is read from a value, or a default if the value is not given. -/
def orDefault {Value : Type} (default : Value) (read : Json → Option Value) :
    Option Json → Option Value
  | none => some default
  | some value => read value

/-- What is read from a value that may be null. -/
def nullable {Value : Type} (read : Json → Option Value) : Json → Option (Option Value)
  | null => some none
  | value => (read value).map some

end Json

end InputDemand
