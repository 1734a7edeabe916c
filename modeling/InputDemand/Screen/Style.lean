/-!
# Styles

The colours and the weight in which text is drawn.  A style may leave a colour open; drawn over
another style it keeps the other's colour there, and at the bottom the terminal's own.
-/

namespace InputDemand

/-- A colour by name or by its parts. -/
inductive Colour where
  | black
  | rgb (red green blue : Nat)
deriving DecidableEq, Repr

structure Style where
  ink? : Option Colour
  paper? : Option Colour
  bold : Bool
  italic : Bool
deriving DecidableEq, Repr

namespace Style

/-- The style that leaves everything open. -/
def plain : Style :=
  ⟨none, none, false, false⟩

def ink (colour : Colour) : Style :=
  ⟨some colour, none, false, false⟩

def paper (colour : Colour) : Style :=
  ⟨none, some colour, false, false⟩

def inBold (style : Style) : Style :=
  { style with bold := true }

def inItalics (style : Style) : Style :=
  { style with italic := true }

def withPaper (style : Style) (colour : Colour) : Style :=
  { style with paper? := some colour }

/-- A style drawn onto another. -/
def onto (above below : Style) : Style where
  ink? := above.ink?.or below.ink?
  paper? := above.paper?.or below.paper?
  bold := above.bold || below.bold
  italic := above.italic || below.italic

@[simp]
theorem onto_plain (style : Style) : style.onto plain = style := by
  simp [onto, plain]

@[simp]
theorem plain_onto (style : Style) : plain.onto style = style := by
  simp [onto, plain]

/-- Layers may be merged in any grouping. -/
theorem onto_assoc (first second third : Style) :
    (first.onto second).onto third = first.onto (second.onto third) := by
  simp [onto, Bool.or_assoc, Option.or_assoc]

end Style

end InputDemand
