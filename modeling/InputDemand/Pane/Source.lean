import InputDemand.Pane.Highlight
import InputDemand.Screen.Picture

/-!
# The source pane

Shows the program with numbered lines, a mark at every line that reads a value, and a bar along the
lines of the main loop.  The line of the open question stands out and is kept at a row of its own;
scrolling moves that row.
-/

namespace InputDemand

/-- The lines that the source pane points at, counted from one. -/
structure SourceMarks where
  inputLines : List Nat
  /-- The first and the last line of the main loop. -/
  loopLines? : Option (Nat × Nat)
  /-- The line of the open question. -/
  current? : Option Nat
deriving DecidableEq, Repr

/-- Which part of the source is shown. -/
structure SourceView where
  /-- The number of lines above the first one shown. -/
  offset : Nat
  /-- The row that the current line is kept at; until it is set, the middle. -/
  row? : Option Nat
deriving DecidableEq, Repr

namespace SourceView

/-- The view of a source that was not shown yet. -/
def initial : SourceView :=
  ⟨0, none⟩

/-- The row for the current line where `visible` rows are shown. -/
def row (view : SourceView) (visible : Nat) : Nat :=
  min (view.row?.getD (visible / 2)) (visible - 1)

/-- The view of `total` lines through `visible` rows.  The current line goes to its row as far as
that leaves no row empty. -/
def settle (total visible : Nat) (current? : Option Nat) (view : SourceView) : SourceView where
  offset :=
    let wanted := match current?.filter fun line => 0 < line && line ≤ total with
      | some line => line - 1 - view.row visible
      | none => view.offset
    min wanted (total - visible)
  row? := some (view.row visible)

def down (view : SourceView) : SourceView :=
  { view with row? := view.row?.map (· - 1) }

def up (view : SourceView) : SourceView :=
  { view with row? := view.row?.map (· + 1) }

end SourceView

namespace SourcePane

def currentStyle : Style :=
  ((Style.ink .black).withPaper Palette.secondary).inBold

/-- A source line with its number and its marks. -/
def line (language : Language) (marks : SourceMarks) (number : Nat) (source : Text) : Line :=
  let current := marks.current? = some number
  let inLoop := marks.loopLines?.any fun (first, last) => first ≤ number && number ≤ last
  let shown := highlight language source
  [⟨if inLoop then ['│'] else [' '], .ink Palette.loopMark⟩,
    ⟨(Text.ofNat number).leftpad 4 ' ' ++ [' '],
      if current then (Style.ink Palette.secondary).inBold else .ink Palette.comment⟩,
    ⟨if number ∈ marks.inputLines then "▸ ".toList else "  ".toList, .ink Palette.inputMark⟩] ++
  if current then shown.map fun fragment => { fragment with style := currentStyle } else shown

def lines (language : Language) (source : Text) (marks : SourceMarks) : List Line :=
  (Text.lines source).mapIdx fun index text => line language marks (index + 1) text

/-- The view of a source in a pane of a size. -/
def settle (source : Text) (marks : SourceMarks) (size : Size) (view : SourceView) : SourceView :=
  view.settle (Text.lines source).length size.visible marks.current?

/-- The pane with a view that is settled. -/
def picture (language : Language) (source : Text) (marks : SourceMarks) (focused : Bool)
    (view : SourceView) (size : Size) : Picture :=
  Picture.framed (" Source (".toList ++ language.tag ++ ") ".toList) (Palette.paneBorder focused)
    size (Picture.ofLines ((lines language source marks).drop view.offset) .plain)

end SourcePane

end InputDemand
