import InputDemand.Source.Mask
import InputDemand.Text.CharClass

/-!
# Languages

The languages whose programs are understood, their tags, and how each writes comments and literals.
-/

namespace InputDemand

inductive Language where
  | python
  | javascript
  | typescript
  | java
  | c
  | cpp
  | go
  | php
  | r
  | sql
deriving DecidableEq, Repr

namespace Language

def all : List Language :=
  [python, javascript, typescript, java, c, cpp, go, php, r, sql]

def tag : Language → Text
  | python => "python".toList
  | javascript => "javascript".toList
  | typescript => "typescript".toList
  | java => "java".toList
  | c => "c".toList
  | cpp => "cpp".toList
  | go => "go".toList
  | php => "php".toList
  | r => "r".toList
  | sql => "sql".toList

/-- The language with exactly this tag. -/
def ofExactTag? (tag : Text) : Option Language :=
  all.find? fun language => language.tag = tag

/-- The language that a tag names, whatever blanks surround it and whatever its case. -/
def ofTag? (tag : Text) : Option Language :=
  ofExactTag? (Text.lower (Text.trim tag))

def lexicon : Language → Lexicon
  | python => .tripleQuoted
  | javascript | typescript | go => .backQuoted
  | java | c | cpp => .slashed
  | php => .slashedHashed
  | r => .hashed
  | sql => .dashed

/-- A source of the language with comments and the contents of literals blanked out. -/
def mask (language : Language) (source : Text) : Text :=
  language.lexicon.mask source

/-- Letters that may stand in front of the opening quote of a literal. -/
def literalMarks : Language → List Char
  | python => "fFrRbBuU".toList
  | _ => []

end Language

end InputDemand
