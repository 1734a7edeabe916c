import InputDemand.Screen.Palette
import InputDemand.Screen.Picture
import InputDemand.Session.LineMode

/-!
# The transcript pane

Lists the questions that were answered, with their answers.  The list may be scrolled, or pinned so
that the newest answer is shown.
-/

namespace InputDemand

structure Exchange where
  number : Nat
  prompt : Text
  answer : Text
  iteration? : Option Iteration
deriving DecidableEq, Repr

/-- Where a list is shown from. -/
inductive Scroll where
  /-- From the entry behind so many others. -/
  | behind (count : Nat)
  /-- So that the last entry is shown. -/
  | pinned
deriving DecidableEq, Repr

namespace Scroll

/-- The number of entries above those shown, of `total` in `visible` rows; no row stays empty while
entries lie above. -/
def offset (total visible : Nat) : Scroll → Nat
  | behind count => min count (total - visible)
  | pinned => total - visible

def down : Scroll → Scroll
  | behind count => .behind (count + 1)
  | pinned => pinned

def up : Scroll → Scroll
  | behind count => .behind (count - 1)
  | pinned => pinned

end Scroll

namespace TranscriptPane

def entry (exchange : Exchange) : Line :=
  [⟨(Text.ofNat exchange.number).leftpad 3 ' ' ++ ". ".toList, .ink Palette.comment⟩,
    ⟨exchange.prompt, .ink Palette.text⟩,
    ⟨iterationLabel exchange.iteration? ++ [' '], .ink Palette.loopMark⟩,
    ⟨"→ ".toList ++ exchange.answer, .ink Palette.success⟩]

/-- The scroll position in a pane of a size; it stays as it is while there is nothing to show. -/
def settle (exchanges : List Exchange) (size : Size) (scroll : Scroll) : Scroll :=
  if exchanges.isEmpty then scroll
  else .behind (scroll.offset exchanges.length size.visible)

def picture (exchanges : List Exchange) (focused : Bool) (scroll : Scroll) (size : Size) :
    Picture :=
  Picture.framed " Transcript ".toList (Palette.paneBorder focused) size <|
    if exchanges.isEmpty then
      Picture.ofLines [[⟨"(no answers yet)".toList, .plain⟩]] (.ink Palette.comment)
    else fun inner =>
      Picture.indented 1 inner <| Picture.ofEntries <|
        (exchanges.map entry).drop (scroll.offset exchanges.length size.visible)

end TranscriptPane

end InputDemand
