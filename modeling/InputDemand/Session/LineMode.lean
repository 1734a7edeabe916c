import InputDemand.Session.Drive

/-!
# Asking line by line

Each question is shown on a line of its own and answered by one line of input.  The end of the
input, a line that is no text, and the command to quit cancel the session.
-/

namespace InputDemand

/-- A short label of an iteration; empty if there is none. -/
def iterationLabel : Option Iteration → Text
  | none => []
  | some ⟨outer, none⟩ => "[i=".toList ++ Text.ofNat outer ++ [']']
  | some ⟨outer, some inner⟩ =>
      ['['] ++ Text.ofNat outer ++ [','] ++ Text.ofNat inner ++ [']']

namespace LineMode

/-- What is typed instead of a value to cancel. -/
def quitCommand : Text := ":q".toList

def shown (question : Question) : Text :=
  let label := iterationLabel question.iteration?
  if question.manual then question.text ++ " (empty line to finish): ".toList
  else if label.isEmpty then question.text
  else label ++ [' '] ++ question.text

/-- The lines of an input, without their line feeds.  What follows the last line feed is a line
only if there is anything. -/
def inputLines (input : List UInt8) : List (List UInt8) :=
  let pieces := input.splitOn 10
  if pieces.getLast? = some [] then pieces.dropLast else pieces

def replyOf (line : List UInt8) : Reply :=
  match String.fromUTF8? ⟨line.toArray⟩ with
  | none => .cancel
  | some decoded =>
      let typed := Text.trimRightBy (fun letter => letter = '\r' || letter = '\n') decoded.toList
      if Text.trim typed = quitCommand then .cancel else .value typed

def replies (input : List UInt8) : List Reply :=
  (inputLines input).map replyOf

/-- Drives a session by the lines of an input. -/
def drive (session : Session) (input : List UInt8) : Driven :=
  session.drive false (replies input)

/-- Everything that is shown while a session is driven. -/
def transcript (driven : Driven) : Text :=
  driven.asked.flatMap shown

end LineMode

end InputDemand
