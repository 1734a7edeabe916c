import InputDemand.Text.Basic

/-!
# Masking comments and string contents

Loops and calls are looked for in a masked copy of the source.  Comments and the contents of
string literals become blanks there, byte for byte; quotes and line feeds stay.  A position found
in the masked copy is therefore the same position of the source.

The scan is one step per character.  Its mode says what the scan is inside of, and a step looks
ahead only to recognise the start or the end of a comment or of a literal.
-/

namespace InputDemand

/-- How a language writes comments and string literals. -/
structure Lexicon where
  /-- What starts a comment that runs to the end of its line. -/
  lineComments : List Text
  /-- Whether a comment may stand between slash-star and star-slash. -/
  blockComments : Bool
  quotes : List Char
  /-- Those quotes whose literals may run over several lines. -/
  spanningQuotes : List Char
  /-- Whether three quotes in a row open a literal that three quotes close. -/
  tripleQuotes : Bool

namespace Lexicon

def slashed : Lexicon where
  lineComments := ["//".toList]
  blockComments := true
  quotes := ['"', '\'']
  spanningQuotes := []
  tripleQuotes := false

/-- Slash comments; back quotes besides, over several lines. -/
def backQuoted : Lexicon :=
  { slashed with quotes := ['"', '\'', '\x60'], spanningQuotes := ['\x60'] }

def slashedHashed : Lexicon :=
  { slashed with
    lineComments := ["//".toList, "#".toList]
    spanningQuotes := ['"', '\''] }

def tripleQuoted : Lexicon where
  lineComments := ["#".toList]
  blockComments := false
  quotes := ['"', '\'']
  spanningQuotes := []
  tripleQuotes := true

def hashed : Lexicon where
  lineComments := ["#".toList]
  blockComments := false
  quotes := ['"', '\'']
  spanningQuotes := ['"', '\'']
  tripleQuotes := false

def dashed : Lexicon where
  lineComments := ["--".toList]
  blockComments := true
  quotes := ['\'']
  spanningQuotes := ['\'']
  tripleQuotes := false

end Lexicon

/-- What the next character of a source belongs to. -/
inductive MaskMode where
  | code
  | lineComment
  /-- The second character of the opening of a block comment. -/
  | blockOpening
  | block
  /-- The second character of the closing of a block comment. -/
  | blockClosing
  /-- The quotes left of a triple quote that opens a literal. -/
  | opening (quote : Char) (left : Nat)
  /-- The inside of a literal; `triple` tells how it closes. -/
  | literal (quote : Char) (triple : Bool)
  /-- The character behind a backslash in a literal. -/
  | escaped (quote : Char) (triple : Bool)
  /-- The quotes left of a triple quote that closes a literal. -/
  | closing (left : Nat)
deriving DecidableEq, Repr

/-- What stands for a hidden character: a line feed for itself, one blank per byte for others. -/
def hidden (letter : Char) : Text :=
  if letter = '\n' then ['\n'] else List.replicate letter.utf8Size ' '

namespace Lexicon

/-- Whether a text starts with three of the quote, and the language has such literals. -/
def opensTriple (lexicon : Lexicon) (quote : Char) (text : Text) : Bool :=
  lexicon.tripleQuotes && [quote, quote, quote].isPrefixOf text

/-- The mode behind the first character of a text that starts in program text, and whether that
character stays. -/
def codeStep (lexicon : Lexicon) (letter : Char) (rest : Text) : MaskMode × Bool :=
  if lexicon.lineComments.any fun mark => mark.isPrefixOf (letter :: rest) then
    (.lineComment, false)
  else if lexicon.blockComments && ['/', '*'].isPrefixOf (letter :: rest) then
    (.blockOpening, false)
  else if lexicon.quotes.contains letter then
    if lexicon.opensTriple letter (letter :: rest) then (.opening letter 2, true)
    else (.literal letter false, true)
  else (.code, true)

/-- The mode behind the first character of a text, and whether that character stays. -/
def step (lexicon : Lexicon) (letter : Char) (rest : Text) : MaskMode → MaskMode × Bool
  | .code => lexicon.codeStep letter rest
  | .lineComment => if letter = '\n' then (.code, true) else (.lineComment, false)
  | .blockOpening => (.block, false)
  | .block =>
      if ['*', '/'].isPrefixOf (letter :: rest) then (.blockClosing, false) else (.block, false)
  | .blockClosing => (.code, false)
  | .opening quote left =>
      (if left ≤ 1 then .literal quote true else .opening quote (left - 1), true)
  | .literal quote triple =>
      if letter = '\\' then (.escaped quote triple, false)
      -- A literal that is not closed on its line is given up with the line.
      else if letter = '\n' && !triple && !lexicon.spanningQuotes.contains quote then (.code, true)
      else if letter = quote then
        if !triple then (.code, true)
        else if [quote, quote, quote].isPrefixOf (letter :: rest) then (.closing 2, true)
        else (.literal quote triple, false)
      else (.literal quote triple, false)
  | .escaped quote triple => (.literal quote triple, false)
  | .closing left => (if left ≤ 1 then .code else .closing (left - 1), true)

def maskFrom (lexicon : Lexicon) : MaskMode → Text → Text
  | _, [] => []
  | mode, letter :: rest =>
      let (after, stays) := lexicon.step letter rest mode
      (if stays then [letter] else hidden letter) ++ lexicon.maskFrom after rest

/-- The source with comments and the contents of literals blanked out. -/
def mask (lexicon : Lexicon) (source : Text) : Text :=
  lexicon.maskFrom .code source

end Lexicon

@[simp]
theorem size_hidden (letter : Char) : Text.size (hidden letter) = letter.utf8Size := by
  unfold hidden
  split
  · subst_vars; rfl
  · generalize letter.utf8Size = count
    induction count with
    | zero => rfl
    | succ count ih =>
        rw [List.replicate_succ, Text.size_cons, ih]
        exact Nat.add_comm 1 count

@[simp]
theorem Lexicon.size_maskFrom (lexicon : Lexicon) (mode : MaskMode) (source : Text) :
    Text.size (lexicon.maskFrom mode source) = Text.size source := by
  induction source generalizing mode with
  | nil => rfl
  | cons letter rest ih =>
      simp only [maskFrom, Text.size_append, Text.size_cons, ih]
      split <;> simp

@[simp]
theorem Lexicon.size_mask (lexicon : Lexicon) (source : Text) :
    Text.size (lexicon.mask source) = Text.size source :=
  lexicon.size_maskFrom .code source

end InputDemand
