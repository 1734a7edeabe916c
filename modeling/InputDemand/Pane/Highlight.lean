import InputDemand.Language
import InputDemand.Screen.Palette
import InputDemand.Screen.Row

/-!
# Highlighting source lines

A source line is cut into words, string literals, a comment up to the end of the line, and single
other characters, each in a style of its own.  The line is read by itself, so what an earlier line
has opened is not known.  No character is lost: the text of the highlighted line is the line.
-/

namespace InputDemand

/-- The signs behind which the rest of a line is highlighted as a comment. -/
def Language.commentSigns : Language → List Text
  | python | r => ["#".toList]
  | php => ["//".toList, "#".toList]
  | sql => ["--".toList]
  | _ => ["//".toList]

namespace Highlight

/-- Words that name types or declare variables. -/
def typeWords : List Text :=
  ["int", "char", "void", "bool", "float", "double", "long", "short", "unsigned", "String",
    "string", "number", "boolean", "auto", "var", "let", "const"].map String.toList

/-- Words that steer a program. -/
def keywords : List Text :=
  ["for", "foreach", "while", "do", "repeat", "if", "else", "elif", "return", "break", "continue",
    "in", "as", "range", "def", "func", "function", "class", "public", "static", "import", "from",
    "package", "SELECT", "FROM", "WHERE"].map String.toList

def constants : List Text :=
  ["NULL", "null", "None", "nil", "true", "false", "True", "False", "TRUE", "FALSE"].map
    String.toList

/-- The style of a word; `called` tells whether an open parenthesis follows. -/
def wordStyle (called : Bool) (word : Text) : Style :=
  if word ∈ typeWords then .ink Palette.typeName
  else if word ∈ keywords then (Style.ink Palette.keyword).inBold
  else if word ∈ constants || word.all Char.isDigit then .ink Palette.number
  else if called then .ink Palette.function
  else .ink Palette.text

def inWord (letter : Char) : Bool :=
  isAlphanumeric letter || letter = '_' || letter = '$'

/-- The style of a character that belongs to no word, literal or comment. -/
def signStyle (letter : Char) : Style :=
  if letter ∈ ['{', '}', '(', ')', '[', ']'] then .ink Palette.primary else .ink Palette.text

/-- What has been begun when a character is met, with its text so far. -/
inductive Held where
  /-- A word; none if its text is empty. -/
  | word (text : Text)
  /-- A string literal, which the next `quote` closes unless it is escaped. -/
  | literal (quote : Char) (escaped : Bool) (text : Text)
deriving DecidableEq, Repr

def Held.text : Held → Text
  | word text => text
  | literal _ _ text => text

/-- The fragment of a finished word, if there is one. -/
def wordFragment (called : Bool) (word : Text) : Line :=
  if word.isEmpty then [] else [⟨word, wordStyle called word⟩]

@[simp]
theorem text_wordFragment (called : Bool) (word : Text) :
    (wordFragment called word).text = word := by
  cases word <;> simp [wordFragment, Line.text]

/-- The fragments of what has been begun and of the rest of the line. -/
def fragments (signs : List Text) : Held → Text → Line
  | .word word, [] => wordFragment false word
  | .literal _ _ text, [] => [⟨text, .ink Palette.string⟩]
  | .word word, letter :: rest =>
      if signs.any fun sign => Text.startsWith (letter :: rest) sign then
        wordFragment false word ++ [⟨letter :: rest, .ink Palette.comment⟩]
      else if letter = '"' || letter = '\'' then
        wordFragment false word ++ fragments signs (.literal letter false [letter]) rest
      else if inWord letter then fragments signs (.word (word ++ [letter])) rest
      else
        wordFragment (letter = '(') word ++
          ⟨[letter], signStyle letter⟩ :: fragments signs (.word []) rest
  | .literal quote escaped text, letter :: rest =>
      if escaped then fragments signs (.literal quote false (text ++ [letter])) rest
      else if letter = '\\' then fragments signs (.literal quote true (text ++ [letter])) rest
      else if letter = quote then
        ⟨text ++ [letter], .ink Palette.string⟩ :: fragments signs (.word []) rest
      else fragments signs (.literal quote false (text ++ [letter])) rest

end Highlight

/-- A source line in the colours of its language. -/
def highlight (language : Language) (line : Text) : Line :=
  Highlight.fragments language.commentSigns (.word []) line

end InputDemand
