import InputDemand.Language
import InputDemand.Pattern.Search

/-!
# Detecting the language of a source

By the extension of a file name, or by markers in the text.  Each marker that occurs adds its weight
to the score of its language; the language with the greatest score is taken, with its share of all
scores as the confidence.
-/

namespace InputDemand

open Pattern

/-! ## File names -/

/-- The last component of a path; trailing slashes and single dots do not count.  None if the path
has no components or ends with a step to the parent. -/
def fileName? (path : Text) : Option Text :=
  ((path.splitOn '/').filter fun part => !part.isEmpty && part ≠ ['.']).getLast?.filter
    fun part => part ≠ ['.', '.']

/-- What follows the last dot of a file name, unless that is its first character. -/
def extension? (name : Text) : Option Text :=
  match (name.reverse.dropWhile (· ≠ '.')) with
  | [] => none
  | _ :: [] => none
  | _ :: _ => some (name.reverse.takeWhile (· ≠ '.')).reverse

/-- The extensions of a language's files, in lower case. -/
def Language.extensions : Language → List String
  | .python => ["py", "pyw"]
  | .javascript => ["js", "mjs", "cjs"]
  | .typescript => ["ts", "mts"]
  | .java => ["java"]
  | .c => ["c", "h"]
  | .cpp => ["cpp", "cc", "cxx", "hpp", "c++"]
  | .go => ["go"]
  | .php => ["php"]
  | .r => ["r"]
  | .sql => ["sql"]

/-- The language that the extension of a file name tells, in any case. -/
def Language.ofPath? (path : Text) : Option Language := do
  let extension ← (fileName? path).bind extension?
  Language.all.find? fun language =>
    language.extensions.any fun known => known.toList = Text.lower extension

/-! ## Markers -/

/-- A character in either case.  The long s and the sign for kelvin count as the letters they stand
for. -/
def anyCase (wanted : Char) : Pattern :=
  letter fun found => found.toLower = wanted || (wanted = 's' && found = 'ſ') ||
    (wanted = 'k' && found = '\u212a')

/-- A word in any case, given in lower case. -/
def wordAnyCase (text : String) : Pattern :=
  text.toList.foldr (fun wanted rest => anyCase wanted ++ rest) nothing

/-- Some text that speaks for a language. -/
structure Marker where
  language : Language
  weight : Nat
  pattern : Pattern

def markers : List Marker := [
  ⟨.php, 10, "<?php"⟩,
  ⟨.php, 2, "$" ++ wordRun ++ blanks ++ "="⟩,
  ⟨.php, 2, wordEdge ++ "echo" ++ wordEdge⟩,
  ⟨.go, 10, lineStart ++ "package" ++ gap ++ "main" ++ wordEdge⟩,
  ⟨.go, 4, wordEdge ++ "fmt." ++ wordRun ++ "("⟩,
  ⟨.go, 3, oneOf [":=", wordEdge ++ "func" ++ gap ++ wordRun ++ "("]⟩,
  ⟨.cpp, 6, "#include" ++ blanks ++ "<" ++
    oneOf ["iostream", "vector", "string", "bits/stdc++.h"] ++ ">"⟩,
  ⟨.cpp, 5, oneOf [wordEdge ++ "std::", wordEdge ++ "cout" ++ blanks ++ "<<",
    wordEdge ++ "cin" ++ blanks ++ ">>"]⟩,
  ⟨.cpp, 2, "using" ++ gap ++ "namespace" ++ gap ++ "std"⟩,
  ⟨.c, 4, "#include" ++ blanks ++ "<" ++ oneOf ["stdio", "stdlib", "string", "math"] ++ ".h>"⟩,
  ⟨.c, 3, oneOf [wordEdge ++ "printf" ++ blanks ++ "(", wordEdge ++ "scanf" ++ blanks ++ "("]⟩,
  ⟨.java, 8, wordEdge ++ "public" ++ gap ++ optional ("final" ++ gap) ++ "class" ++ wordEdge⟩,
  ⟨.java, 6, wordEdge ++ "System.out.print"⟩,
  ⟨.java, 4, "public" ++ gap ++ "static" ++ gap ++ "void" ++ gap ++ "main"⟩,
  ⟨.python, 5, lineStart ++ blanks ++ "def" ++ gap ++ wordRun ++ blanks ++ "(" ++ many inLine ++
    ")" ++ blanks ++ ":"⟩,
  ⟨.python, 3, wordEdge ++ "print" ++ blanks ++ "("⟩,
  ⟨.python, 4, oneOf [lineStart ++ blanks ++ oneOf ["import", "from"] ++ gap ++ wordRun,
    wordEdge ++ "input" ++ blanks ++ "(", ":" ++ blanks ++ lineEnd]⟩,
  ⟨.r, 5, "<-"⟩,
  ⟨.r, 4, wordEdge ++ oneOf ["cat", "readline", "library"] ++ blanks ++ "("⟩,
  ⟨.sql, 8, wordEdge ++ oneOf [
    wordAnyCase "select" ++ gap ++ some1 inLine ++ gap ++ wordAnyCase "from",
    wordAnyCase "insert" ++ gap ++ wordAnyCase "into",
    wordAnyCase "create" ++ gap ++ wordAnyCase "table",
    wordAnyCase "update" ++ gap ++ wordRun ++ gap ++ wordAnyCase "set"] ++ wordEdge⟩,
  ⟨.typescript, 6, oneOf [":" ++ blanks ++ oneOf ["number", "string", "boolean"] ++ wordEdge,
    wordEdge ++ "interface" ++ gap ++ wordRun]⟩,
  ⟨.javascript, 5, wordEdge ++ "console.log" ++ blanks ++ "("⟩,
  ⟨.javascript, 3, wordEdge ++ oneOf ["const", "let"] ++ gap ++ wordRun ++ blanks ++ "="⟩,
  ⟨.javascript, 2, oneOf ["=>", wordEdge ++ "function" ++ wordEdge]⟩]

/-- The weights of the markers of a language that occur in a source. -/
def ownScore (source : Text) (language : Language) : Nat :=
  (markers.filter fun marker => marker.language = language && marker.pattern.occursIn source).foldr
    (fun marker score => marker.weight + score) 0

/-- The score of a language.  What speaks for a script speaks for a typed script as well, as soon
as anything speaks for that. -/
def score (source : Text) (language : Language) : Nat :=
  let own := ownScore source language
  if language = .typescript && 0 < own then own + ownScore source .javascript else own

structure Detected where
  language : Language
  score : Nat
  total : Nat
deriving DecidableEq, Repr

/-- The language that most speaks for; of equals the last.  None if nothing speaks for any. -/
def detect (source : Text) : Option Detected :=
  let scored := Language.all.map fun language => (language, score source language)
  let best := scored.foldl (fun best next => if best.2 ≤ next.2 then next else best) (.python, 0)
  let total := scored.foldr (fun entry sum => entry.2 + sum) 0
  if best.2 = 0 then none else some ⟨best.1, best.2, total⟩

/-! ## Confidence -/

/-- The quotient rounded to the nearest whole number, a half to the even one. -/
def roundedQuotient (numerator denominator : Nat) : Nat :=
  let floor := numerator / denominator
  let excess := 2 * (numerator % denominator)
  if excess < denominator then floor
  else if denominator < excess then floor + 1
  else floor + floor % 2

namespace Detected

/-- The number of binary places that give the share 24 significant bits. -/
def binaryPlaces (detected : Detected) : Nat :=
  -- The share takes so many doublings to reach one; 23 more bits stand behind its leading one.
  23 + ((List.range detected.total).find? fun shift =>
    detected.total ≤ detected.score * Nat.pow 2 shift).getD 0

/-- The share of all scores to 24 significant bits, in units of its last binary place. -/
def confidence (detected : Detected) : Nat :=
  roundedQuotient (detected.score * Nat.pow 2 detected.binaryPlaces) detected.total

/-- The confidence with six decimal places. -/
def confidenceText (detected : Detected) : Text :=
  let unit := Nat.pow 2 detected.binaryPlaces
  let millionths := roundedQuotient (detected.confidence * 1000000) unit
  let fraction := Text.ofNat (millionths % 1000000)
  Text.ofNat (millionths / 1000000) ++ ['.'] ++ List.replicate (6 - fraction.length) '0' ++ fraction

end Detected

end InputDemand
