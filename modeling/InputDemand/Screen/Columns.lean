import InputDemand.Screen.EmojiRanges
import InputDemand.Screen.UnspacedRanges
import InputDemand.Screen.WideRanges
import InputDemand.Text.CharClass

/-!
# Columns of a text

How many columns of a screen a text takes.  Most characters take the same columns everywhere.  Some
take others in front of certain characters: the letters of a ligature share a column, and pictures
that are joined, coloured or chosen by a selector make one picture of two columns.  So a text is
measured from its end, and at every place it is known what it goes on with.
-/

namespace InputDemand

/-- The columns that a character takes on its own. -/
def columns (letter : Char) : Nat :=
  if letter.toNat < 128 then 1
  else if inRanges letter unspacedRanges then 0
  else if inRanges letter wideRanges then 2
  else if letter = '\u17D8' then 3
  else 1

/-- The beginnings of ligatures, from their last letter back. -/
inductive Ligature where
  /-- The Arabic Alef, which joins with a Lam in front of it. -/
  | alef
  /-- The Hebrew Lamed, which joins with an Alef in front of it if a joiner stands between. -/
  | lamed
  | joinedLamed
  /-- The Buginese Ya, which joins with the vowel I and the letter A in front of it. -/
  | ya
  | joinedYa
  | vowelYa
  /-- A Tifinagh consonant, which joins with another one by a joiner of its alphabet or of all. -/
  | tifinagh
  | joinedTifinagh
  | markedTifinagh
  /-- A Lisu tone letter, which joins with another one in front of it. -/
  | tone
  /-- The Old Turkic letter I, which joins with the letter Ec in front of it. -/
  | turkic
  | joinedTurkic
  /-- A Khmer letter that is written below the line behind the sign Coeng. -/
  | khmer
deriving DecidableEq, Repr

/-- What a picture behind a joiner has in front of the joiner. -/
inductive Joined where
  | nothing
  /-- The frame of a key. -/
  | keycap
  /-- One regional indicator, or more of an even or an odd number. -/
  | indicator
  | evenIndicators
  | oddIndicators
  /-- The end of a flag's tags with so many letters, and in front of them so many digits. -/
  | tags (letters digits : Nat)
deriving DecidableEq, Repr

/-- What a text goes on with at a place, as far as it matters to what stands in front. -/
inductive Sequel where
  | nothing
  | lineFeed
  | emoji
  /-- A skin colour. -/
  | modifier
  /-- One regional indicator or several. -/
  | indicator
  | indicators
  /-- A joiner, behind which follows a picture. -/
  | joined (what : Joined)
  /-- The Kirat Rai vowels E and AI, which join with another vowel in front of them. -/
  | kiratE
  | kiratAi
  | ligature (part : Ligature)
deriving DecidableEq, Repr

/-- How a selector wants the character in front of it drawn. -/
inductive Presentation where
  | text
  | picture
deriving DecidableEq, Repr

namespace Ligature

/-- Whether joiners and ignorable marks may stand within the ligature. -/
def isLoose : Ligature → Bool
  | alef => false
  | _ => true

/-- The beginning of the ligature with a joiner in front. -/
def join : Ligature → Ligature
  | lamed => joinedLamed
  | ya => joinedYa
  | tifinagh => joinedTifinagh
  | turkic => joinedTurkic
  | part => part

def isAlef (letter : Char) : Bool :=
  inRanges letter [(0x622, 0x623), (0x625, 0x625), (0x627, 0x627), (0x671, 0x673), (0x675, 0x675),
    (0x773, 0x774), (0x870, 0x882)]

def isLam (letter : Char) : Bool :=
  inRanges letter [(0x644, 0x644), (0x6B5, 0x6B8), (0x76A, 0x76A), (0x8A6, 0x8A6), (0x8C7, 0x8C7)]

def isTifinagh (letter : Char) : Bool :=
  inRanges letter [(0x2D31, 0x2D65), (0x2D6F, 0x2D6F)]

/-- Whether a Khmer letter can be written below the line. -/
def isKhmer (letter : Char) : Bool :=
  inRanges letter [(0x1780, 0x1782), (0x1784, 0x1787), (0x1789, 0x178C), (0x178E, 0x1793),
    (0x1795, 0x1798), (0x179B, 0x179D), (0x17A0, 0x17A0), (0x17A2, 0x17A2), (0x17A7, 0x17A7),
    (0x17AB, 0x17AC), (0x17AF, 0x17AF)]

/-- Marks that may stand within any loose ligature. -/
def isIgnorable (letter : Char) : Bool :=
  inRanges letter [(0x34F, 0x34F), (0x17B4, 0x17B5), (0x180B, 0x180D), (0x180F, 0x180F),
    (0xFE00, 0xFE0F), (0xE0100, 0xE01EF)]

/-- Marks that may stand between a Lam and an Alef. -/
def isTransparent (letter : Char) : Bool :=
  InputDemand.columns letter = 0 && !inRanges letter partingRanges

/-- The ligature that a letter can be the end of. -/
def of? (letter : Char) : Option Ligature :=
  if isAlef letter then some alef
  else if isKhmer letter then some khmer
  else if isTifinagh letter then some tifinagh
  else if letter = '\u05DC' then some lamed
  else if letter = '\u1A10' then some ya
  else if letter = '\uA4FC' || letter = '\uA4FD' then some tone
  else if letter.toNat = 0x10C03 then some turkic
  else none

end Ligature

def isModifier (letter : Char) : Bool :=
  0x1F3FB ≤ letter.toNat && letter.toNat ≤ 0x1F3FF

/-- Whether a character is a regional indicator, a half of a flag. -/
def isIndicator (letter : Char) : Bool :=
  0x1F1E6 ≤ letter.toNat && letter.toNat ≤ 0x1F1FF

/-- Whether a character is a picture of its own accord. -/
def isEmoji (letter : Char) : Bool :=
  inRanges letter emojiRanges

namespace Sequel

/-- What a text goes on with in front of a character whose sequel does not matter. -/
def of (letter : Char) : Sequel :=
  if isModifier letter then modifier
  else if isIndicator letter then indicator
  else if isEmoji letter then emoji
  else if letter.toNat = 0x16D67 then kiratE
  else if letter.toNat = 0x16D68 then kiratAi
  else match Ligature.of? letter with
    | some part => .ligature part
    | none => nothing

/-- Whether a picture in front makes one picture with the sequel. -/
def joinsSelected : Sequel → Bool
  | joined .nothing | joined .keycap => true
  | _ => false

/-- The columns by which a letter in front of a ligature changes the width of the text, and what the
text then goes on with; none if the letter is no part of the ligature. -/
def extendLigature? (part : Ligature) (letter : Char) : Option (Int × Sequel) :=
  match part with
  | .alef =>
      if Ligature.isLam letter then some (0, nothing)
      else if Ligature.isTransparent letter then some (0, .ligature .alef)
      else none
  | .joinedLamed => if letter = '\u05D0' then some (0, nothing) else none
  | .joinedYa => if letter = '\u1A17' then some (0, .ligature .vowelYa) else none
  | .vowelYa => if letter = '\u1A15' then some (0, nothing) else none
  | .tifinagh => if letter = '\u2D7F' then some (1, .ligature .markedTifinagh) else none
  | .joinedTifinagh =>
      if letter = '\u2D7F' then some (1, .ligature .markedTifinagh)
      else if Ligature.isTifinagh letter then some (0, nothing)
      else none
  | .markedTifinagh => if Ligature.isTifinagh letter then some (-1, nothing) else none
  | .tone =>
      if 0xA4F8 ≤ letter.toNat && letter.toNat ≤ 0xA4FB then some (0, nothing) else none
  | .joinedTurkic => if letter.toNat = 0x10C32 then some (0, nothing) else none
  | .khmer => if letter = '\u17D2' then some (-1, nothing) else none
  | .lamed | .ya | .turkic => none

/-- The same in front of a joiner with a picture behind it.  The flag of a region is a black flag
with the region's name in tags: three digits or up to six letters. -/
def extendJoined? (what : Joined) (letter : Char) : Option (Int × Sequel) :=
  let tagLetter := 0xE0061 ≤ letter.toNat && letter.toNat ≤ 0xE007A
  let tagDigit := 0xE0030 ≤ letter.toNat && letter.toNat ≤ 0xE0039
  match what with
  | .nothing =>
      if letter.toNat = 0x20E3 then some (0, .joined .keycap)
      else if isIndicator letter then some (1, .joined .indicator)
      else if isModifier letter then some (0, modifier)
      else if letter.toNat = 0xE007F then some (0, .joined (.tags 0 0))
      else if isEmoji letter then some (0, emoji)
      else none
  | .keycap => none
  | .indicator | .oddIndicators =>
      if isIndicator letter then some (-1, .joined .evenIndicators) else none
  | .evenIndicators => if isIndicator letter then some (3, .joined .oddIndicators) else none
  | .tags letters digits =>
      if tagLetter && digits = 0 && letters < 6 then some (0, .joined (.tags (letters + 1) 0))
      else if tagDigit && (digits = 0 && letters ≤ 4 || 0 < digits && digits < 3) then
        some (0, .joined (.tags letters (digits + 1)))
      else if letter.toNat = 0x1F3F4 && (digits = 0 && 3 ≤ letters || digits = 3) then
        some (0, emoji)
      else none

/-- The same in front of any sequel but a ligature with a joiner or an ignorable mark in it. -/
def extend? (sequel : Sequel) (letter : Char) : Option (Int × Sequel) :=
  let joiner := letter = '\u200D'
  match sequel with
  | .ligature part => extendLigature? part letter
  | .modifier =>
      if inRanges letter modifiableRanges then some (0, emoji)
      else if joiner then some (0, .joined .nothing)
      else none
  | .indicator => if isIndicator letter then some (1, indicators) else none
  | .indicators =>
      if isIndicator letter then some (1, indicators)
      else if joiner then some (0, .joined .nothing)
      else none
  | .emoji => if joiner then some (0, .joined .nothing) else none
  | .joined what =>
      let closed := what = .evenIndicators || what = .oddIndicators
      if joiner && closed then some (0, .joined .nothing) else extendJoined? what letter
  | .kiratE =>
      if letter.toNat = 0x16D63 || letter.toNat = 0x16D69 then some (0, nothing)
      else if letter.toNat = 0x16D67 then some (0, kiratAi)
      else if letter.toNat = 0x16D68 then some (1, kiratE)
      else none
  | .kiratAi => if letter.toNat = 0x16D63 then some (0, nothing) else none
  | .nothing | .lineFeed => none

end Sequel

/-- The part of a text behind a place, as far as it matters to what stands in front. -/
structure Ahead where
  sequel : Sequel
  /-- The selector in front of it, if there is one. -/
  selector? : Option Presentation
deriving DecidableEq, Repr

namespace Ahead

def nothing : Ahead :=
  ⟨.nothing, none⟩

/-- What is ahead with a selector in front of it.  A selector parts everything but ligatures and, if
it selects pictures, pictures behind a joiner. -/
def select (ahead : Ahead) (presentation : Presentation) : Ahead :=
  match ahead.sequel with
  | .ligature part => ⟨.ligature part, some presentation⟩
  | sequel =>
      if presentation = .picture && sequel.joinsSelected then ⟨sequel, some presentation⟩
      else ⟨.nothing, some presentation⟩

/-- What is ahead if the selector has found nothing to select. -/
def unselect (ahead : Ahead) : Ahead :=
  match ahead with
  | ⟨sequel, none⟩ => ⟨sequel, none⟩
  | ⟨.ligature part, some _⟩ => ⟨.ligature part, none⟩
  | ⟨_, some _⟩ => nothing

/-- The columns that a character beyond Latin-1 adds where no selector is in force. -/
def pushPlain (sequel : Sequel) (letter : Char) : Int × Ahead :=
  let alone : Int × Sequel := (InputDemand.columns letter, .of letter)
  let (gain, next) := match sequel with
    | .ligature part =>
        if part.isLoose && letter = '\u200D' then (0, .ligature part.join)
        else if part.isLoose && Ligature.isIgnorable letter then (0, .ligature part)
        else (sequel.extend? letter).getD alone
    | _ => (sequel.extend? letter).getD alone
  (gain, ⟨next, none⟩)

/-- The columns that a character of ASCII or Latin-1 adds.  Line feeds take none, nor do carriage
returns in front of them; the other controls take one. -/
def pushLatin (sequel : Sequel) (letter : Char) : Int × Ahead :=
  if letter = '\n' then (0, ⟨.lineFeed, none⟩)
  else if letter = '\r' && sequel = .lineFeed then (0, nothing)
  else (1, nothing)

/-- The columns by which a character in front changes the width of a text, and what the text then
begins with. -/
def push (ahead : Ahead) (letter : Char) : Int × Ahead :=
  if ahead.selector? = some .picture && inRanges letter selectableRanges then
    (if ahead.sequel.joinsSelected then 0 else 2, ⟨.emoji, none⟩)
  else
    -- The selector has found no letter that it could turn into a picture.
    let ahead := if ahead.selector? = some .picture then ahead.unselect else ahead
    if letter.toNat ≤ 0xA0 then pushLatin ahead.sequel letter
    else if letter = '\uFE0F' then (0, ahead.select .picture)
    else if letter = '\uFE0E' then (0, ahead.select .text)
    else if ahead.selector? = some .text && inRanges letter textSelectableRanges then (1, nothing)
    else pushPlain ahead.unselect.sequel letter

end Ahead

namespace Text

/-- The columns that a text takes, and what it begins with. -/
def measure : Text → Int × Ahead
  | [] => (0, .nothing)
  | letter :: text =>
      let (width, ahead) := measure text
      let (gain, ahead) := ahead.push letter
      (width + gain, ahead)

def columns (text : Text) : Nat :=
  (measure text).1.toNat

end Text

end InputDemand
