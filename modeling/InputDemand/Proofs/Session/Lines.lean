import InputDemand.Session.LineMode
import InputDemand.Proofs.Text.Bytes

/-!
# Typed lines and scripts

A session is driven by typed lines as it is driven by a script of the same answers, as long as there
is an answer to each of its questions.  Where the answers run out the two part: a script ends the
values beyond the plan, and the end of the input cancels whatever is asked.
-/

namespace InputDemand

namespace LineMode

/-! ## Lines that are typed -/

/-- An answer typed on a line of its own. -/
structure TypedLine where
  text : Text
  /-- Whether a carriage return stands in front of the line feed. -/
  returned : Bool
  noFeed : '\n' ∉ text
  noReturn : text.getLast? ≠ some '\r'
  noQuit : Text.trim text ≠ quitCommand

namespace TypedLine

/-- The line without its line feed. -/
def content (line : TypedLine) : Text :=
  line.text ++ if line.returned then ['\r'] else []

/-- What is typed for the line. -/
def typed (line : TypedLine) : List UInt8 :=
  line.content.bytes ++ [10]

example : (⟨['2'], true, by decide, by decide, by decide⟩ : TypedLine).typed = [50, 13, 10] := by
  decide

variable (line : TypedLine)

end TypedLine

end LineMode

/-! ## Two ends of the same answers -/

namespace Session

variable {session : Session} {question : Question} {texts : List Text}

/-- How a session driven by answers whose end cancels keeps to one driven by the same answers whose
end may be a blank. -/
structure KeepsTo (texts : List Text) (scripted typed : Driven) : Prop where
  asked : typed.asked = scripted.asked
  bounded : scripted.asked.length ≤ texts.length + 1
  answered : scripted.asked.length ≤ texts.length → typed = scripted
  cancelled : texts.length < scripted.asked.length →
    typed.result = .error .userCancelled ∧ typed.session.phase = .cancelled

theorem KeepsTo.of_eq {scripted typed : Driven} (same : typed = scripted)
    (answered : scripted.asked.length ≤ texts.length) : KeepsTo texts scripted typed where
  asked := congrArg Driven.asked same
  bounded := Nat.le_succ_of_le answered
  answered _ := same
  cancelled more := absurd answered (Nat.not_le.mpr more)

end Session

namespace LineMode

end LineMode

end InputDemand
