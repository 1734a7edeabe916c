import InputDemand.Text.Basic

/-!
# JSON values and their text

A JSON value keeps what its text shows: numbers as they are written, fields in their order and with
repetitions, and of a string whether it holds only whole characters.  A value is written compactly,
or over several lines with two blanks of indentation for each level.
-/

namespace InputDemand

inductive Json where
  | null
  | bool (flag : Bool)
  /-- A number as it is written. -/
  | number (literal : Text)
  /-- A string; without its text if it holds half of a surrogate pair. -/
  | string (text? : Option Text)
  | array (items : List Json)
  /-- An object with its fields in order; a name is a string like any other. -/
  | object (fields : List (Option Text × Json))

namespace Json

def ofText (text : Text) : Json :=
  string (some text)

def ofNat (number : Nat) : Json :=
  .number (Text.ofNat number)

def field (name : String) (value : Json) : Option Text × Json :=
  (some name.toList, value)

def hexDigit (value : Nat) : Char :=
  Nat.digitChar value

/-- The form of a character within a string: quotes and backslashes are escaped, line feeds and
some other controls have short escapes, the remaining controls are given by number. -/
def escape (letter : Char) : Text :=
  if letter = '"' then ['\\', '"']
  else if letter = '\\' then ['\\', '\\']
  else if letter = '\n' then ['\\', 'n']
  else if letter = '\r' then ['\\', 'r']
  else if letter = '\t' then ['\\', 't']
  else if letter = '\x08' then ['\\', 'b']
  else if letter = '\x0c' then ['\\', 'f']
  else if letter.toNat < 32 then
    ['\\', 'u', '0', '0', hexDigit (letter.toNat / 16), hexDigit (letter.toNat % 16)]
  else [letter]

def quoted (text : Text) : Text :=
  '"' :: text.flatMap escape ++ ['"']

mutual

/-- The text of a value without blanks. -/
def compact : Json → Text
  | null => "null".toList
  | bool flag => if flag then "true".toList else "false".toList
  | number literal => literal
  | string text? => quoted (text?.getD [])
  | array items => ['['] ++ [','].intercalate (compactItems items) ++ [']']
  | object fields => ['\x7b'] ++ [','].intercalate (compactFields fields) ++ ['\x7d']

def compactItems : List Json → List Text
  | [] => []
  | item :: items => compact item :: compactItems items

def compactFields : List (Option Text × Json) → List Text
  | [] => []
  | (name?, value) :: fields =>
      (quoted (name?.getD []) ++ [':'] ++ compact value) :: compactFields fields

end

/-- A list between two brackets, one entry to a line and one level deeper than the brackets. -/
def indented (level : Nat) (opening closing : Char) (entries : List Text) : Text :=
  if entries.isEmpty then [opening, closing]
  else
    let feed := fun (depth : Nat) => '\n' :: List.replicate (2 * depth) ' '
    [opening] ++ feed (level + 1) ++ ([','] ++ feed (level + 1)).intercalate entries ++
      feed level ++ [closing]

mutual

/-- The text of a value over several lines, for a place at a level of indentation. -/
def pretty (level : Nat) : Json → Text
  | null => "null".toList
  | bool flag => if flag then "true".toList else "false".toList
  | number literal => literal
  | string text? => quoted (text?.getD [])
  | array items => indented level '[' ']' (prettyItems (level + 1) items)
  | object fields => indented level '\x7b' '\x7d' (prettyFields (level + 1) fields)

def prettyItems (level : Nat) : List Json → List Text
  | [] => []
  | item :: items => pretty level item :: prettyItems level items

def prettyFields (level : Nat) : List (Option Text × Json) → List Text
  | [] => []
  | (name?, value) :: fields =>
      (quoted (name?.getD []) ++ [':', ' '] ++ pretty level value) :: prettyFields level fields

end

end Json

end InputDemand
