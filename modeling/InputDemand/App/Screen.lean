import InputDemand.App

/-!
# The screen of the application

The source pane takes the left of the screen, the transcript and the plan lie above each other at
the right, and the answer pane and the status bar run along the bottom.  A run of the application is
the list of its frames: one for the first state and one for every key.
-/

namespace InputDemand

/-- Where the parts of the screen lie. -/
structure Layout where
  source : Size
  transcript : Size
  plan : Size
  answer : Size
  status : Size
deriving DecidableEq, Repr

/-- The parts of a screen of a size.  On a low screen the answer pane comes first and the status bar
second. -/
def Layout.of (size : Size) : Layout :=
  let answer := min 3 size.height
  let status := min 1 (size.height - answer)
  let panes := size.height - answer - status
  let left := share 60 size.width
  let top := share 50 panes
  { source := ⟨left, panes⟩
    transcript := ⟨size.width - left, top⟩
    plan := ⟨size.width - left, panes - top⟩
    answer := ⟨size.width, answer⟩
    status := ⟨size.width, status⟩ }

structure Frame where
  picture : Picture
  cursor : Nat × Nat
deriving DecidableEq, Repr

namespace App

/-- The state with its scroll positions settled for a layout. -/
def settle (app : App) (layout : Layout) : App :=
  { app with
    sourceView := SourcePane.settle app.session.analysis.source app.marks layout.source
      app.sourceView
    transcriptScroll := TranscriptPane.settle app.exchanges layout.transcript app.transcriptScroll
    planScroll := PlanPane.settle app.session.plan app.session.answers.length layout.plan
      app.planScroll }

def picture (app : App) (layout : Layout) : Picture :=
  let session := app.session
  let answered := session.answers.length
  let source := SourcePane.picture session.analysis.language session.analysis.source app.marks
    (app.focus = .source) app.sourceView layout.source
  let transcript := TranscriptPane.picture app.exchanges (app.focus = .transcript)
    app.transcriptScroll layout.transcript
  let plan := PlanPane.picture session.plan answered (session.phase = .manual)
    (app.focus = .plan) app.planScroll layout.plan
  let status := StatusBar.picture app.message session.progress.1 session.progress.2 session.phase
    layout.status
  Picture.beside source (transcript ++ plan) ++
    AnswerPane.picture app.question? app.typed layout.answer ++ status

/-- The place of the cursor, while there is a question. -/
def cursor? (app : App) (layout : Layout) : Option (Nat × Nat) :=
  app.question?.map fun question =>
    (AnswerPane.cursor question app.typed layout.answer.width, layout.source.height + 1)

/-- The frame of a settled state; without a question the cursor stays where it was. -/
def frame (app : App) (layout : Layout) (cursor : Nat × Nat) : Frame :=
  ⟨app.picture layout, (app.cursor? layout).getD cursor⟩

/-- The frames that are shown while keys are pressed, and the state at the end.  Keys behind the
one that ends the application are left. -/
def run (layout : Layout) (app : App) (cursor : Nat × Nat) : List Key → List Frame × App
  | [] =>
      let settled := app.settle layout
      ([settled.frame layout cursor], settled)
  | key :: keys =>
      let settled := app.settle layout
      let frame := settled.frame layout cursor
      if settled.finished then ([frame], settled)
      else
        let (frames, last) := run layout (settled.press key) frame.cursor keys
        (frame :: frames, last)

/-- Runs the application on a screen of a size. -/
def play (app : App) (size : Size) (keys : List Key) : List Frame × App :=
  run (Layout.of size) app (0, 0) keys

end App

end InputDemand
