import InputDemand.Screen.Style

/-!
# The palette

The colours of the screen, named for what they mark.
-/

namespace InputDemand.Palette

/-- Text without a special meaning. -/
def text : Colour := .rgb 205 214 244

/-- Questions and brackets. -/
def primary : Colour := .rgb 137 180 250

/-- What comes next, and values beyond the plan. -/
def secondary : Colour := .rgb 250 179 135

def comment : Colour := .rgb 108 112 134

/-- Answers, and a plan that is complete. -/
def success : Colour := .rgb 166 227 161

/-- A session that was cancelled. -/
def failure : Colour := .rgb 243 139 168

def keyword : Colour := .rgb 137 180 250

def string : Colour := .rgb 250 179 135

def number : Colour := .rgb 250 179 135

/-- The border of the pane that has the focus. -/
def focusedBorder : Colour := .rgb 249 226 175

def border : Colour := .rgb 108 112 134

/-- Paper of the status bar. -/
def bar : Colour := .rgb 50 50 70

def function : Colour := .rgb 249 226 175

def typeName : Colour := .rgb 148 226 213

/-- The mark of lines that read a value. -/
def inputMark : Colour := .rgb 245 194 231

/-- The mark of lines inside the loop. -/
def loopMark : Colour := .rgb 203 166 247

/-- The border of a pane, which shows whether it has the focus. -/
def paneBorder (focused : Bool) : Style :=
  if focused then (Style.ink focusedBorder).inBold else .ink border

end InputDemand.Palette
