import InputDemand.Text.AlphabeticRanges
import InputDemand.Text.MarkRanges
import InputDemand.Text.NumberRanges
import InputDemand.Text.RecentRanges
import InputDemand.Text.Basic

/-!
# Character classes

Blanks, digits, word characters and alphanumeric characters, by their Unicode properties.  ASCII
is decided by rule; everything else is looked up in the range tables.  Alphanumeric characters are
those of Unicode 17.  Digits and word characters, which patterns are made of, are those of Unicode
16: what Unicode 17 added belongs to no word.
-/

namespace InputDemand

def inRanges (letter : Char) (ranges : List (Nat × Nat)) : Bool :=
  ranges.any fun (low, high) => low ≤ letter.toNat && letter.toNat ≤ high

/-- Letters, and the few signs and marks that Unicode counts as alphabetic. -/
def isAlphabetic (letter : Char) : Bool :=
  letter.isAlpha || (128 ≤ letter.toNat && inRanges letter alphabeticRanges)

/-- Alphabetic characters and numbers of any kind. -/
def isAlphanumeric (letter : Char) : Bool :=
  isAlphabetic letter || letter.isDigit ||
    (128 ≤ letter.toNat &&
      (inRanges letter decimalRanges || inRanges letter otherNumberRanges))

/-- Letters, marks and digits that patterns do not know yet. -/
def isRecent (letter : Char) : Bool :=
  128 ≤ letter.toNat && inRanges letter recentRanges

/-- Decimal digits of any script. -/
def isDecimal (letter : Char) : Bool :=
  letter.isDigit ||
    (128 ≤ letter.toNat && inRanges letter decimalRanges && !isRecent letter)

/-- Connector punctuation beyond the underscore, and the two joiners that do not break a word. -/
def connectorRanges : List (Nat × Nat) := [
  (0x200C, 0x200D), (0x203F, 0x2040), (0x2054, 0x2054), (0xFE33, 0xFE34), (0xFE4D, 0xFE4F),
  (0xFF3F, 0xFF3F)]

/-- Characters of a word: alphabetic characters, marks, decimal digits, connectors, joiners. -/
def isWord (letter : Char) : Bool :=
  letter = '_' || isDecimal letter ||
    ((isAlphabetic letter || (128 ≤ letter.toNat &&
        (inRanges letter plainMarkRanges || inRanges letter connectorRanges))) &&
      !isRecent letter)

/-- Blanks beyond ASCII: the next-line control, fixed and no-break spaces, the line and paragraph
separators, the ideographic space. -/
def blankRanges : List (Nat × Nat) := [
  (0x85, 0x85), (0xA0, 0xA0), (0x1680, 0x1680), (0x2000, 0x200A), (0x2028, 0x2029),
  (0x202F, 0x202F), (0x205F, 0x205F), (0x3000, 0x3000)]

/-- White space in the sense of the Unicode property. -/
def isBlank (letter : Char) : Bool :=
  letter = ' ' || (9 ≤ letter.toNat && letter.toNat ≤ 13) ||
    (128 ≤ letter.toNat && inRanges letter blankRanges)

/-- First character of a name: an ASCII letter or an underscore. -/
def isNameStart (letter : Char) : Bool :=
  letter.isAlpha || letter = '_'

def isIndent (letter : Char) : Bool :=
  letter = ' ' || letter = '\t'

namespace Text

def trimLeftBy (drop : Char → Bool) (text : Text) : Text :=
  text.dropWhile drop

def trimRightBy (drop : Char → Bool) (text : Text) : Text :=
  (text.reverse.dropWhile drop).reverse

def trim (text : Text) : Text :=
  trimRightBy isBlank (trimLeftBy isBlank text)

def blank (text : Text) : Bool :=
  text.all isBlank

/-- Bytes of leading blanks. -/
def blankWidth (text : Text) : Nat :=
  size (text.takeWhile isBlank)

/-- An ASCII name: a letter or underscore, then letters, digits and underscores. -/
def isName : Text → Bool
  | [] => false
  | first :: more => isNameStart first && more.all fun letter => letter.isAlphanum || letter = '_'

/-- A name without leading dollar signs. -/
def bareName (name : Text) : Text :=
  trimLeftBy (· = '$') name

/-- ASCII letters in lower case; everything else unchanged. -/
def lower (text : Text) : Text :=
  text.map Char.toLower

end Text

end InputDemand
