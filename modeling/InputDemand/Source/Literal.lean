import InputDemand.Text.Cursor

/-!
# String literals

A literal is delimited in the masked source, where only real quotes are left, and its contents are
read from the source itself at the same positions.
-/

namespace InputDemand

namespace Text

/-- The text that backslash escapes stand for: `\n` and `\t` are a line feed and a tab, `\r` is
dropped, any other escaped character stands for itself, a lone backslash at the end stays. -/
def unescape : Text → Text
  | [] => []
  | ['\\'] => ['\\']
  | '\\' :: letter :: rest =>
      if letter = 'n' then '\n' :: unescape rest
      else if letter = 't' then '\t' :: unescape rest
      else if letter = 'r' then unescape rest
      else letter :: unescape rest
  | letter :: rest => letter :: unescape rest

def isQuote (letter : Char) : Bool :=
  letter = '"' || letter = '\'' || letter = '\x60'

/-- Whether an argument list may go on like this behind a lone argument. -/
def endsArgument (rest : Text) : Bool :=
  match rest with
  | [] => true
  | letter :: _ =>
      letter = ')' || letter = ',' || letter = ';' || letter = '\n' || letter = '\r' ||
        ['<', '<'].isPrefixOf rest || ['?', '>'].isPrefixOf rest

end Text

namespace Cursor

/-- The contents of the literal that opens at a place of the masked source, and the place behind
its closing quote.  Three quotes delimit it if they stand in the source as well; it is no literal
if it is never closed. -/
def literal? (source : Text) (place : Cursor) : Except Misplaced (Option (Text × Cursor)) := do
  match place.rest with
  | [] => return none
  | quote :: _ =>
      if !Text.isQuote quote then return none
      let triple := [quote, quote, quote]
      let isTriple ←
        if triple.isPrefixOf place.rest then
          let same ← Cursor.at? source place.offset
          pure (triple.isPrefixOf same.rest)
        else pure false
      let delimiter := if isTriple then triple else [quote]
      let body := place.skip delimiter.length
      match body.find? delimiter with
      | none => return none
      | some close =>
          let contents ← Text.slice source (body.spanUpTo close)
          return some (Text.unescape contents, close.skip delimiter.length)

/-- The lone literal of the argument at a place of the masked source, without line ends at its
end.  Up to two of the `marks`, which are ASCII letters, may stand in front of the quote; nothing
if anything but the end of the argument follows the literal. -/
def soleLiteral? (source : Text) (marks : List Char) (place : Cursor) :
    Except Misplaced (Option Text) := do
  let argument := place.skipBlank
  let isMark := fun (letter : Char) => letter.toNat < 128 && marks.contains letter
  let marked := argument.skip ((argument.rest.take 2).takeWhile isMark).length
  match ← marked.literal? source with
  | none => return none
  | some (contents, stop) =>
      if Text.endsArgument (stop.skipWhile isIndent).rest then
        return some (Text.trimRightBy (fun letter => letter = '\n' || letter = '\r') contents)
      else return none

end Cursor

end InputDemand
