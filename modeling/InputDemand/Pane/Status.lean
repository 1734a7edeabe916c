import InputDemand.Screen.Palette
import InputDemand.Screen.Picture
import InputDemand.Session.Basic

/-!
# The status bar

Shows at the left how far the session has come and a message, and at the right what the keys do.
-/

namespace InputDemand.StatusBar

/-- The number of the value asked for, or of the last one answered, and the number of all values if
it is known. -/
def progressText (answered : Nat) (total? : Option Nat) (phase : Phase) : Text :=
  let number := match phase with
    | .awaiting | .manual => answered + 1
    | _ => answered
  let total := match total? with
    | some total => Text.ofNat total
    | none => ['?']
  " Value ".toList ++ Text.ofNat number ++ ['/'] ++ total ++ [' ']

/-- The colour of the progress in a phase. -/
def badge : Phase → Colour
  | .manual => Palette.secondary
  | .cancelled => Palette.failure
  | .completed => Palette.success
  | _ => Palette.primary

def separator : Style :=
  (Style.ink Palette.comment).withPaper Palette.bar

def plain : Style :=
  (Style.ink Palette.text).withPaper Palette.bar

def badgeStyle (colour : Colour) : Style :=
  ((Style.ink .black).withPaper colour).inBold

def left (message : Text) (answered : Nat) (total? : Option Nat) (phase : Phase) : Line :=
  [⟨progressText answered total? phase, badgeStyle (badge phase)⟩, ⟨" | ".toList, separator⟩,
    ⟨[' '] ++ message ++ [' '], plain⟩]

/-- A key and what it does. -/
def help (key action : Text) : Line :=
  [⟨[' '] ++ key ++ [' '], (Style.ink .black).withPaper Palette.comment⟩,
    ⟨[' '] ++ action ++ [' '], plain⟩]

def keys : List Line :=
  [help "↵".toList "submit".toList, help "⇥".toList "focus".toList,
    help "↑/↓".toList "scroll".toList, help "esc".toList "cancel".toList]

def right (phase : Phase) : Line :=
  let rule : Fragment := ⟨['│'], separator⟩
  let manual : Line :=
    if phase = .manual then [rule, ⟨" ⌨ MANUAL ".toList, badgeStyle Palette.secondary⟩] else []
  List.intercalate [rule, ⟨[' '], plain⟩] keys ++ manual

def picture (message : Text) (answered : Nat) (total? : Option Nat) (phase : Phase) (size : Size) :
    Picture :=
  let base := Style.paper Palette.bar
  let middle := share 50 size.width
  let leftPart := (left message answered total? phase).toRow base middle
  let rightPart := (right phase).toRightRow base (size.width - middle)
  Picture.cover [leftPart ++ rightPart] base size

end InputDemand.StatusBar
