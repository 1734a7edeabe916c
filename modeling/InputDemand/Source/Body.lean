import InputDemand.Pattern.Basic
import InputDemand.Source.Brackets

/-!
# Loop bodies

Where the body of a loop starts and ends, on masked source: a block in braces, a single statement,
or the lines indented deeper than the header.
-/

namespace InputDemand

namespace Cursor

/-- The inside of the block whose brace opens at the cursor. -/
def block? (brace : Cursor) : Option Piece :=
  brace.matchingClose?.map fun close => ⟨brace.next, close⟩

/-- The end of a statement, from a place `depth` brackets deep inside it.  A semicolon belongs to
the statement; so does a block, which ends it.  The closing bracket of an enclosing list or block
ends it, and so does a line feed where line feeds end statements, unless it comes `first`. -/
def statementEnd? (feedsEnd first : Bool) (depth : Nat) (before : List Char) :
    Text → Option Cursor
  | [] => some ⟨before, []⟩
  | letter :: rest =>
      -- Braces do not nest here: at depth zero they end the statement, deeper they are passed over.
      if letter = '(' || letter = '[' then
        statementEnd? feedsEnd false (depth + 1) (letter :: before) rest
      else if letter = ')' || letter = ']' then
        match depth with
        | 0 => some ⟨before, letter :: rest⟩
        | depth + 1 => statementEnd? feedsEnd false depth (letter :: before) rest
      else if depth = 0 && letter = '\x7b' then
        (matchingClose? ⟨before, letter :: rest⟩).map Cursor.next
      else if depth = 0 && letter = '\x7d' then some ⟨before, letter :: rest⟩
      else if depth = 0 && letter = ';' then some ⟨letter :: before, rest⟩
      else if depth = 0 && letter = '\n' && feedsEnd && !first then some ⟨before, letter :: rest⟩
      else statementEnd? feedsEnd false depth (letter :: before) rest

/-- The body behind a header: the inside of the block that follows, or else one statement.  None
at the end of the source, or if the block is never closed. -/
def bodyAfter? (feedsEnd : Bool) (header : Cursor) : Option Piece :=
  let start := header.skipBlank
  match start.rest with
  | [] => none
  | letter :: _ =>
      if letter = '\x7b' then start.block?
      else (statementEnd? feedsEnd true 0 start.before start.rest).map fun stop => ⟨start, stop⟩

/-- The body of a header that ends with the colon at the cursor.  If anything follows the colon
on its line, that is the body.  Otherwise it is the run of lines below that are blank or indented
deeper than the header's line, up to the last of them that is not blank; none if all are blank. -/
def suite? (colon : Cursor) : Option Piece :=
  let behind := colon.next
  let lineEnd := colon.lineEnd
  if !Text.blank (behind.textUpTo lineEnd) then some ⟨behind, lineEnd⟩
  else
    let depth := colon.indentation
    let below := (lineEnd.rest.splitOn '\n').drop 1
    let run := below.takeWhile fun line => Text.blank line || depth < Text.blankWidth line
    let lines := (run.reverse.dropWhile Text.blank).reverse
    if lines.isEmpty then none
    else
      -- Every line of the run stands behind a line feed of its own.
      let letters := lines.foldr (fun line behind => line.length + 1 + behind) 0
      some ⟨lineEnd, lineEnd.skip letters⟩

end Cursor

end InputDemand
