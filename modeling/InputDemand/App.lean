import InputDemand.Pane.Answer
import InputDemand.Pane.Source
import InputDemand.Pane.Status
import InputDemand.Pane.Transcript
import InputDemand.Pane.Upcoming

/-!
# The full-screen application

A session with four panes and a status bar, driven by keys.  A key is a step from one state to the
next; the screen is a picture of the state.  Before a state is shown its scroll positions are
settled for the size of the screen, and what is settled is where the next key goes on.
-/

namespace InputDemand

inductive Key where
  | character (letter : Char)
  | enter
  | backspace
  | nextPane
  | previousPane
  | up
  | down
  | cancel
  /-- A key without a meaning. -/
  | other
deriving DecidableEq, Repr

/-- A pane that takes the keys for scrolling. -/
inductive Focus where
  | source
  | transcript
  | plan
deriving DecidableEq, Repr

namespace Focus

def next : Focus → Focus
  | source => transcript
  | transcript => plan
  | plan => source

def previous : Focus → Focus
  | source => plan
  | transcript => source
  | plan => transcript

@[simp]
theorem previous_next (focus : Focus) : focus.next.previous = focus := by
  cases focus <;> rfl

@[simp]
theorem next_previous (focus : Focus) : focus.previous.next = focus := by
  cases focus <;> rfl

end Focus

structure App where
  session : Session
  /-- The question that waits for an answer; none when the session has ended. -/
  question? : Option Question
  typed : Text
  exchanges : List Exchange
  focus : Focus
  sourceView : SourceView
  transcriptScroll : Scroll
  /-- The number of entries above those shown of the plan. -/
  planScroll : Nat
  marks : SourceMarks
  /-- Whether the application ends once the state has been shown. -/
  finished : Bool
  message : Text
deriving DecidableEq, Repr

namespace App

/-- The application with a session that it starts. -/
def launch (session : Session) : Except Misplaced App := do
  let loopLines? ← session.analysis.loopLines
  let started := session.start
  let question? := started.question?
  return {
    session := started
    question?
    typed := []
    exchanges := []
    focus := .source
    sourceView := .initial
    transcriptScroll := .behind 0
    planScroll := 0
    marks := ⟨session.analysis.inputLines, loopLines?, question?.bind Question.line?⟩
    finished := question?.isNone
    message := if question?.isSome then "Type a value and press Enter".toList
      else "Nothing to ask".toList }

/-- What is said of an answer that leads to the next question. -/
def answeredMessage : Option Question → Text
  | none => "All values collected".toList
  | some question =>
      if question.manual then "Remaining values unknown; enter them one by one".toList
      else "Answer recorded".toList

/-- Adds an answered question to the transcript; a blank that ends the manual values is none. -/
def record (app : App) (question : Question) : App :=
  if question.manual && Text.blank app.typed then app
  else
    let exchange : Exchange :=
      ⟨question.number, question.text, app.typed, question.iteration?⟩
    { app with exchanges := app.exchanges ++ [exchange], transcriptScroll := .pinned }

def submit (app : App) : App :=
  match app.question? with
  | none => app
  | some question =>
      match app.session.submit app.typed with
      | .error error => { app with typed := [], message := error.message }
      | .ok session =>
          let next? := session.question?
          -- The transcript takes what was typed, before it is cleared here.
          { app.record question with
            session
            question? := next?
            typed := []
            planScroll := 0
            marks := { app.marks with current? := next?.bind Question.line? }
            finished := next?.isNone
            message := answeredMessage next? }

def cancel (app : App) : App :=
  match app.session.cancel with
  | .error error => { app with message := error.message }
  | .ok session =>
      { app with session, question? := none, finished := true, message := "Cancelled".toList }

def scrollUp (app : App) : App :=
  match app.focus with
  | .source => { app with sourceView := app.sourceView.up }
  | .transcript => { app with transcriptScroll := app.transcriptScroll.up }
  | .plan => { app with planScroll := app.planScroll - 1 }

def scrollDown (app : App) : App :=
  match app.focus with
  | .source => { app with sourceView := app.sourceView.down }
  | .transcript => { app with transcriptScroll := app.transcriptScroll.down }
  | .plan => { app with planScroll := app.planScroll + 1 }

def press (app : App) : Key → App
  | .character letter => { app with typed := app.typed ++ [letter] }
  | .enter => app.submit
  | .backspace => { app with typed := app.typed.dropLast }
  | .nextPane => { app with focus := app.focus.next }
  | .previousPane => { app with focus := app.focus.previous }
  | .up => app.scrollUp
  | .down => app.scrollDown
  | .cancel => app.cancel
  | .other => app

end App

end InputDemand
