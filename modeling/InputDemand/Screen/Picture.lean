import InputDemand.Screen.Row

/-!
# Pictures

A picture is a list of rows, from the top.  Pictures are put beside and above each other, and a
frame with a title is drawn around one.  Every part is told the size it has to fill.
-/

namespace InputDemand

/-- Rows, from the top. -/
abbrev Picture := List Row

structure Size where
  width : Nat
  height : Nat
deriving DecidableEq, Repr

namespace Size

def inner (size : Size) : Size :=
  ⟨size.width - 2, size.height - 2⟩

/-- The number of rows to choose what is shown in a frame; at least one. -/
def visible (size : Size) : Nat :=
  max 1 (size.height - 2)

end Size

/-- A part of the screen: the column and the row of its upper left corner, in the 16-bit numbers of
a terminal, and its size. -/
structure Area where
  left : UInt16
  top : UInt16
  size : Size
deriving DecidableEq, Repr

/-- The column behind the last one, as far as 16-bit numbers go. -/
def Area.right (area : Area) : Nat :=
  min 65535 (area.left.toNat + area.size.width)

/-- A part of a whole in per cent, to the nearest number; a half is rounded up. -/
def share (percent whole : Nat) : Nat :=
  (whole * percent + 50) / 100

theorem share_le {percent : Nat} (part : percent ≤ 100) (whole : Nat) :
    share percent whole ≤ whole := by
  have := Nat.mul_le_mul_left whole part
  simp only [share]
  omega

namespace Picture

/-- A picture that covers a size: rows that are missing are blank, those beyond the height are cut
off. -/
def cover (rows : List Row) (base : Style) (size : Size) : Picture :=
  rows.take size.height ++
    List.replicate (size.height - rows.length) (Row.blank base size.width)

@[simp]
theorem length_cover (rows : List Row) (base : Style) (size : Size) :
    (cover rows base size).length = size.height := by
  simp [cover]
  omega

/-- Lines of running text over a style. -/
def ofLines (lines : List Line) (base : Style) (size : Size) : Picture :=
  cover (lines.map fun line => line.toRow base size.width) base size

/-- Lines as the entries of a list. -/
def ofEntries (lines : List Line) (size : Size) : Picture :=
  cover (lines.map fun line => line.toEntry size.width) .plain size

def beside (left right : Picture) : Picture :=
  List.zipWith (· ++ ·) left right

/-- A picture behind empty columns at the left, as many as there is room for. -/
def indented (indent : Nat) (size : Size) (draw : Size → Picture) : Picture :=
  let indent := min indent size.width
  (draw ⟨size.width - indent, size.height⟩).map fun row => Row.blank .plain indent ++ row

/-- A row between its ends; one column shows the left end, none shows nothing. -/
def between (left right : Char) (style : Style) (width : Nat) (middle : Row) : Row :=
  match width with
  | 0 => []
  | 1 => Row.fill left style 1
  | _ => Row.fill left style 1 ++ middle ++ Row.fill right style 1

/-- The upper border with the part of the title that fits. -/
def titled (title : Text) (style : Style) (width : Nat) : Row :=
  let shown := Row.clipped (width - 2) (Fragment.glyphs ⟨title, style⟩)
  between '┌' '┐' style width (shown ++ Row.fill '─' style (width - 2 - Row.columns shown))

/-- A frame with a title around what `draw` makes of the size inside. -/
def framed (title : Text) (style : Style) (size : Size) (draw : Size → Picture) : Picture :=
  match size.height with
  | 0 => []
  | 1 => [titled title style size.width]
  | _ =>
      titled title style size.width ::
        ((draw size.inner).map fun row => between '│' '│' style size.width row) ++
          [between '└' '┘' style size.width (Row.fill '─' style (size.width - 2))]

end Picture

end InputDemand
