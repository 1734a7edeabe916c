import InputDemand.Screen.Palette
import InputDemand.Screen.Picture
import InputDemand.Session.Basic

/-!
# The answer pane

Shows the open question and what has been typed for it, with the cursor behind the last character.
-/

namespace InputDemand.AnswerPane

def label (question : Question) : Text :=
  Text.ofNat question.number ++ ". ".toList ++ question.text

def line (question : Question) (typed : Text) : Line :=
  [⟨label question, (Style.ink Palette.primary).inBold⟩, ⟨[' '], .plain⟩,
    ⟨typed, .ink Palette.text⟩]

def title : Option Question → Text
  | none => " Done ".toList
  | some question =>
      if question.manual then " Value (empty to finish) ".toList else " Answer ".toList

def border : Option Question → Colour
  | none => Palette.border
  | some question => if question.manual then Palette.secondary else Palette.focusedBorder

def picture (question? : Option Question) (typed : Text) (size : Size) : Picture :=
  Picture.framed (title question?) (.ink (border question?)) size
    (Picture.ofLines ((question?.map fun question => line question typed).toList) .plain)

/-- The characters in front of the cursor, counted in 16 bits. -/
def typedTo (question : Question) (typed : Text) : UInt16 :=
  .ofNat ((label question).length + 1 + typed.length)

/-- Whether the sum for the column of the cursor stays within 16 bits.  Where it does not, a program
that checks its sums ends. -/
def sumFits (area : Area) (question : Question) (typed : Text) : Bool :=
  area.left.toNat + 1 + (typedTo question typed).toNat < 65536

/-- The column and the row of the cursor.  Every character counts as one column, the right border is
kept free, and sums that are not checked begin again at zero. -/
def place (area : Area) (question : Question) (typed : Text) : Nat × Nat :=
  (min (area.left + 1 + typedTo question typed).toNat (area.right - 2), (area.top + 1).toNat)

/-- The column of the cursor in a pane of a width at the left of the screen. -/
def cursor (question : Question) (typed : Text) (width : Nat) : Nat :=
  (place ⟨0, 0, ⟨width, 3⟩⟩ question typed).1

end InputDemand.AnswerPane
