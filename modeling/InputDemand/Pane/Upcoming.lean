import InputDemand.Screen.Palette
import InputDemand.Screen.Picture
import InputDemand.Session.LineMode

/-!
# The plan pane

Lists the values of the plan that are still to come, the next one in bold, and below them how the
plan ends.
-/

namespace InputDemand.PlanPane

/-- A value to come; `next` tells whether it is the one asked for. -/
def entry (next : Bool) (number : Nat) (slot : Slot) : Line :=
  [⟨(Text.ofNat number).leftpad 3 ' ' ++ ". ".toList, .ink Palette.comment⟩,
    ⟨slot.prompt.text,
      if next then (Style.ink Palette.secondary).inBold else .ink Palette.text⟩,
    ⟨' ' :: iterationLabel slot.iteration?, .ink Palette.loopMark⟩]

def ending (manual : Bool) (halt? : Option Halt) : Fragment :=
  let (text, colour) :=
    if manual then ("manual entry: empty answer finishes".toList, Palette.secondary)
    else match halt? with
      | none => ("end of input".toList, Palette.success)
      | some (.pending name) =>
          ("more once '".toList ++ name ++ "' is known".toList, Palette.primary)
      | some .openEnded => ("continues manually".toList, Palette.secondary)
  ⟨"… ".toList ++ text, (Style.ink colour).inItalics⟩

/-- All entries of the pane when some values have been answered. -/
def entries (plan : Plan) (answered : Nat) (manual : Bool) : List Line :=
  ((plan.slots.toList.drop answered).mapIdx fun index slot =>
    entry (index = 0) (answered + index + 1) slot) ++ [[ending manual plan.halt?]]

/-- The scroll position in a pane of a size. -/
def settle (plan : Plan) (answered : Nat) (size : Size) (scroll : Nat) : Nat :=
  min scroll (plan.size - answered + 1 - size.visible)

/-- The pane with a scroll position that is settled. -/
def picture (plan : Plan) (answered : Nat) (manual focused : Bool) (scroll : Nat) (size : Size) :
    Picture :=
  Picture.framed (" Plan (".toList ++ Text.ofNat plan.size ++ " planned) ".toList)
    (Palette.paneBorder focused) size
    (Picture.ofEntries ((entries plan answered manual).drop scroll))

end InputDemand.PlanPane
