import InputDemand.Screen.Cluster
import InputDemand.Screen.Columns
import InputDemand.Screen.Style

/-!
# Rows of a screen

A line is styled text of any length.  A row is what a screen shows of it: signs side by side that
fill a number of columns.  A sign that does not fit into the columns left is not drawn.  There are
two ways to lay a line out.  As running text it is cut at the first sign that does not fit, and
signs without columns are left out.  As an entry of a list each of its fragments begins where the
widths of those in front of it end, even if these reach further, and signs without columns are drawn
into their neighbour.
-/

namespace InputDemand

structure Fragment where
  text : Text
  style : Style
deriving DecidableEq, Repr

abbrev Line := List Fragment

/-- A sign on the screen. -/
structure Glyph where
  symbol : Text
  columns : Nat
  style : Style
deriving DecidableEq, Repr

/-- Signs side by side. -/
abbrev Row := List Glyph

def Line.text (line : Line) : Text :=
  line.flatMap Fragment.text

/-- The signs of a fragment; line feeds are not drawn. -/
def Fragment.glyphs (fragment : Fragment) : Row :=
  ((Text.clusters fragment.text).filter (· ≠ ['\n'])).map fun cluster =>
    ⟨cluster, Text.columns cluster, fragment.style⟩

def Glyph.onto (glyph : Glyph) (below : Style) : Glyph :=
  { glyph with style := glyph.style.onto below }

/-- A sign of one column with another drawn into it; behind a wider sign the other is not seen. -/
def Glyph.absorb (glyph mark : Glyph) : Glyph :=
  if glyph.columns ≤ 1 then { glyph with symbol := glyph.symbol ++ mark.symbol } else glyph

namespace Row

def columns : Row → Nat
  | [] => 0
  | glyph :: row => glyph.columns + columns row

@[simp]
theorem columns_nil : columns [] = 0 := rfl

@[simp]
theorem columns_cons (glyph : Glyph) (row : Row) :
    columns (glyph :: row) = glyph.columns + columns row := rfl

@[simp]
theorem columns_append (left right : Row) :
    columns (left ++ right) = columns left + columns right := by
  induction left with
  | nil => simp
  | cons glyph left ih => simp [ih, Nat.add_assoc]

def onto (row : Row) (below : Style) : Row :=
  row.map fun glyph => glyph.onto below

@[simp]
theorem columns_onto (row : Row) (below : Style) : columns (row.onto below) = columns row := by
  induction row with
  | nil => rfl
  | cons glyph row ih => exact congrArg (glyph.columns + ·) ih

/-- A sign of one column, repeated. -/
def fill (symbol : Char) (style : Style) (width : Nat) : Row :=
  List.replicate width ⟨[symbol], 1, style⟩

@[simp]
theorem columns_fill (symbol : Char) (style : Style) (width : Nat) :
    columns (fill symbol style width) = width := by
  induction width with
  | zero => rfl
  | succ width ih =>
      simp only [fill, List.replicate_succ, columns_cons] at ih ⊢
      omega

def blank (style : Style) (width : Nat) : Row :=
  fill ' ' style width

@[simp]
theorem columns_blank (style : Style) (width : Nat) : columns (blank style width) = width :=
  columns_fill ' ' style width

/-- The signs up to the first that does not fit into the columns. -/
def fitting : Nat → Row → Row
  | _, [] => []
  | width, glyph :: row =>
      if glyph.columns ≤ width then glyph :: fitting (width - glyph.columns) row else []

theorem columns_fitting_le (width : Nat) (row : Row) : columns (fitting width row) ≤ width := by
  induction row generalizing width with
  | nil => simp [fitting]
  | cons glyph row ih =>
      simp only [fitting]
      split
      · have := ih (width - glyph.columns)
        simp only [columns_cons]
        omega
      · simp

theorem columns_filter_pos (row : Row) :
    columns (row.filter fun glyph => glyph.columns ≠ 0) = columns row := by
  induction row with
  | nil => rfl
  | cons glyph row ih =>
      by_cases empty : glyph.columns = 0 <;> simp_all

/-- Draws the signs without columns into the sign in front of them. -/
def joinBackward : Row → Row
  | [] => []
  | glyph :: row =>
      -- From the right, so that several such signs in a row have become one.
      match joinBackward row with
      | next :: others =>
          if next.columns = 0 then glyph.absorb next :: others else glyph :: next :: others
      | [] => [glyph]

/-- The signs of a fragment that fit into some columns.  A sign without columns is drawn into the
sign in front of it.  At the very start it is drawn into the sign behind it, or fills a column if
there is none that fits. -/
def clipped (width : Nat) (row : Row) : Row :=
  match width, joinBackward row with
  | 0, _ => []
  | _, [] => []
  | width, first :: others =>
      if first.columns ≠ 0 then fitting width (first :: others)
      else match others with
        | [] => [{ first with columns := 1 }]
        | next :: more =>
            if next.columns ≤ width then
              fitting width ({ next with symbol := first.symbol ++ next.symbol } :: more)
            else [{ first with columns := 1 }]

theorem columns_clipped_le (width : Nat) (row : Row) : columns (clipped width row) ≤ width := by
  cases width with
  | zero => simp [clipped]
  | succ width =>
      simp only [clipped]
      cases joinBackward row with
      | nil => simp
      | cons first others =>
          by_cases seen : first.columns = 0
          · cases others with
            | nil => simp [seen]
            | cons next more =>
                by_cases room : next.columns ≤ width + 1
                · simpa [seen, room] using columns_fitting_le (width + 1) _
                · simp [seen, room]
          · simpa [seen] using columns_fitting_le (width + 1) _

/-- A row column by column: behind a sign of several columns come blanks. -/
def spread : Row → Row
  | [] => []
  | glyph :: row => glyph :: (blank .plain (glyph.columns - 1) ++ spread row)

/-- The signs that columns show: a sign hides the columns behind its first, here `hidden` ones at
the start. -/
def gather : Nat → Row → Row
  | _, [] => []
  | 0, glyph :: row => glyph :: gather (glyph.columns - 1) row
  | hidden + 1, _ :: row => gather hidden row

/-- Draws a row, column by column, over the columns behind the first `skipped` ones. -/
def overwrite (below : Row) (skipped : Nat) (above : Row) : Row :=
  below.take skipped ++
    List.zipWith (fun glyph under => glyph.onto under.style) above (below.drop skipped) ++
    below.drop (skipped + above.length)

@[simp]
theorem length_overwrite (below : Row) (skipped : Nat) (above : Row) :
    (overwrite below skipped above).length = below.length := by
  simp [overwrite]
  omega

end Row

namespace Line

/-- The signs of a line that running text of a width shows; a sign wider than that is passed
over. -/
def shown (line : Line) (width : Nat) : Row :=
  let glyphs := (line.flatMap Fragment.glyphs).filter fun glyph => glyph.columns ≤ width
  (Row.fitting width glyphs).filter fun glyph => glyph.columns ≠ 0

theorem columns_shown_le (line : Line) (width : Nat) : Row.columns (line.shown width) ≤ width := by
  simp only [shown, Row.columns_filter_pos]
  exact Row.columns_fitting_le width _

/-- A line as running text over a style, from the left. -/
def toRow (line : Line) (base : Style) (width : Nat) : Row :=
  (line.shown width).onto base ++ Row.blank base (width - Row.columns (line.shown width))

/-- A line as running text over a style, up to the right. -/
def toRightRow (line : Line) (base : Style) (width : Nat) : Row :=
  Row.blank base (width - Row.columns (line.shown width)) ++ (line.shown width).onto base

@[simp]
theorem columns_toRow (line : Line) (base : Style) (width : Nat) :
    Row.columns (line.toRow base width) = width := by
  have := line.columns_shown_le width
  simp [toRow]
  omega

@[simp]
theorem columns_toRightRow (line : Line) (base : Style) (width : Nat) :
    Row.columns (line.toRightRow base width) = width := by
  have := line.columns_shown_le width
  simp [toRightRow]
  omega

/-- Draws the fragments of a line over columns, behind the first `skipped` ones. -/
def drawn : Line → Nat → Row → Row
  | [], _, below => below
  | fragment :: line, skipped, below =>
      let wanted := Text.columns fragment.text
      if wanted = 0 then drawn line skipped below
      else
        let glyphs := Row.clipped (below.length - skipped) fragment.glyphs
        drawn line (skipped + wanted) (below.overwrite skipped (Row.spread glyphs))

/-- A line as an entry of a list. -/
def toEntry (line : Line) (width : Nat) : Row :=
  Row.gather 0 (drawn line 0 (Row.blank .plain width))

@[simp]
theorem length_drawn (line : Line) (skipped : Nat) (below : Row) :
    (line.drawn skipped below).length = below.length := by
  induction line generalizing skipped below with
  | nil => rfl
  | cons fragment line ih =>
      simp only [drawn]
      split <;> simp [ih]

end Line

end InputDemand
