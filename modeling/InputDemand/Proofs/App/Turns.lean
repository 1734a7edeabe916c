import InputDemand.App.Screen
import InputDemand.Proofs.Demand.Cuts
import InputDemand.Proofs.Session.Script

/-!
# The application in step with its session

The application keeps a question, a transcript and a mark of its end of its own beside the session.
`InStep` says how these copies stand to the session; every turn, a key or a picture between two
keys, keeps it.  The session itself is moved as it would be by the calls that the keys stand for.
-/

namespace InputDemand

/-- What happens to an application: it is shown on a screen, or a key is pressed. -/
inductive Turn where
  | shown (layout : Layout)
  | key (key : Key)
deriving DecidableEq, Repr

/-- The entry of the transcript for a question and its answer. -/
def Question.answered (question : Question) (answer : Text) : Exchange :=
  ⟨question.number, question.text, answer, question.iteration?⟩

namespace Session

variable {analysis : Analysis} {session : Session}

/-- The entries for some answers, each with the question that is asked behind those before it. -/
def exchangesAlong (analysis : Analysis) (answers : List Text) : List Exchange :=
  answers.mapIdx fun index answer =>
    (questionAfter analysis (answers.take index)).answered answer

/-- The calls that turns make on a session: Enter submits what was typed since the last answer, if
a question is open. -/
def callsOf (session : Session) (typed : Text) : List Turn → List Call
  | [] => []
  | .key (.character letter) :: turns => callsOf session (typed ++ [letter]) turns
  | .key .backspace :: turns => callsOf session typed.dropLast turns
  | .key .enter :: turns =>
      if session.question?.isSome then
        .submit typed :: callsOf (session.call (.submit typed)).1 [] turns
      else callsOf session typed turns
  | .key .cancel :: turns => .cancel :: callsOf (session.call .cancel).1 typed turns
  | _ :: turns => callsOf session typed turns

theorem callsOf_enter (session : Session) (typed : Text) (turns : List Turn) :
    callsOf session typed (.key .enter :: turns) =
      if session.question?.isSome then
        .submit typed :: callsOf (session.call (.submit typed)).1 [] turns
      else callsOf session typed turns := rfl

theorem callsOf_cancel (session : Session) (typed : Text) (turns : List Turn) :
    callsOf session typed (.key .cancel :: turns) =
      .cancel :: callsOf (session.call .cancel).1 typed turns := rfl

/-! ## Entries -/

theorem exchangesAlong_concat (answers : List Text) (value : Text) :
    exchangesAlong analysis (answers ++ [value]) =
      exchangesAlong analysis answers ++ [(questionAfter analysis answers).answered value] := by
  rw [exchangesAlong, List.mapIdx_concat, List.take_left, exchangesAlong]
  congr 1
  apply List.mapIdx_eq_mapIdx_iff.mpr
  intro index within
  rw [List.take_append_of_le_length (Nat.le_of_lt within)]

theorem answer_exchangesAlong (answers : List Text) :
    (exchangesAlong analysis answers).map Exchange.answer = answers := by
  apply List.ext_getElem
  · simp [exchangesAlong]
  · intro index _ _
    simp [exchangesAlong, Question.answered]

theorem number_exchangesAlong (answers : List Text) :
    (exchangesAlong analysis answers).map Exchange.number = List.range' 1 answers.length := by
  apply List.ext_getElem
  · simp [exchangesAlong]
  · intro index within _
    have below : index ≤ answers.length := by
      simp [exchangesAlong] at within
      omega
    simp [exchangesAlong, Question.answered, questionAfter, number_questionAt, below]
    omega

/-! ## Open questions -/

/-- A sound session that has started asks until it ends. -/
theorem isNone_question? (sound : Sound analysis session) (started : session.phase ≠ .idle) :
    session.question?.isNone = session.phase.isFinal := by
  cases sound with
  | idle => exact absurd rfl started
  | awaiting answers unanswered =>
      rw [question?_eq_questionAfter unanswered]
      rfl
  | _ => rfl

/-- A value is taken for every open question, which is the one told by the answers.  It is one more
answer, unless it is a blank that ends the values beyond the plan. -/
theorem submit_of_question? (sound : Sound analysis session) {question : Question}
    (asks : session.question? = some question) (value : Text) :
    question = questionAfter analysis session.answers ∧
      ∃ answered, session.submit value = .ok answered ∧
        answered.phase ≠ .idle ∧ answered.phase ≠ .cancelled ∧ session.phase ≠ .cancelled ∧
        answered.answers =
          if question.manual && Text.blank value then session.answers
          else session.answers ++ [value] := by
  cases sound with
  | awaiting answers unanswered =>
      rw [question?_eq_questionAfter unanswered] at asks
      cases asks
      have planned : (questionAfter analysis answers).manual = false :=
        manual_questionAt_of_lt unanswered
      refine ⟨rfl, advance ⟨analysis, answers ++ [value], analysis.plan answers, .awaiting⟩,
        rfl, ?_⟩
      rw [planned]
      rcases advance_cases (analysis.plan answers) .awaiting
          (length_le_size_append unanswered value) with
        ⟨_, advanced⟩ | ⟨_, _, advanced⟩ | ⟨_, _, advanced⟩ <;>
      · rw [advanced]
        simp
  | manual answers openEnded covered =>
      rw [manualQuestion_eq_questionAfter covered] at asks
      cases asks
      have manual : (questionAfter analysis answers).manual = true :=
        manual_questionAt_of_size_le covered
      refine ⟨rfl, ?_⟩
      rw [manual]
      by_cases isBlank : Text.blank value
      · refine ⟨⟨analysis, answers, analysis.plan answers, .completed⟩, ?_⟩
        simp [submit, isBlank]
      · refine ⟨⟨analysis, answers ++ [value], analysis.plan answers, .manual⟩, ?_⟩
        simp [submit, isBlank]
  | _ => cases asks

end Session

namespace App

open Session

def turn (app : App) : Turn → App
  | .shown layout => app.settle layout
  | .key key => app.press key

def afterTurns (app : App) (turns : List Turn) : App :=
  turns.foldl App.turn app

/-- How the copies that an application keeps stand to a session about a program that it has
started. -/
structure InStep (analysis : Analysis) (app : App) : Prop where
  sound : Sound analysis app.session
  started : app.session.phase ≠ .idle
  question : app.question? = app.session.question?
  finished : app.finished = app.session.phase.isFinal
  exchanges : app.session.phase ≠ .cancelled →
    app.exchanges = exchangesAlong analysis app.session.answers

variable {analysis : Analysis} {app : App}

/-! ## One turn -/

/-- What neither the session nor a copy of it depends on may change freely. -/
theorem InStep.of_eq {app' : App} (inStep : InStep analysis app)
    (session : app'.session = app.session) (question : app'.question? = app.question?)
    (finished : app'.finished = app.finished) (exchanges : app'.exchanges = app.exchanges) :
    InStep analysis app' := by
  constructor
  · rw [session]
    exact inStep.sound
  · rw [session]
    exact inStep.started
  · rw [session, question]
    exact inStep.question
  · rw [session, finished]
    exact inStep.finished
  · rw [session, exchanges]
    exact inStep.exchanges

theorem inStep_launch (launched : launch (Session.new analysis) = .ok app) :
    InStep analysis app ∧ app.session = (Session.new analysis).start ∧ app.typed = [] := by
  obtain ⟨lines?, _, made⟩ := bind_eq_ok launched
  cases made
  have sound : Sound analysis (Session.new analysis).start := sound_start .idle
  have started : (Session.new analysis).start.phase ≠ .idle ∧
      (Session.new analysis).start.answers = [] := by
    have begun : (Session.new analysis).start = (Session.new analysis).advance := rfl
    rw [begun]
    have fits : ([] : List Text).length ≤ (analysis.plan []).size := Nat.zero_le _
    rcases advance_cases (analysis.plan []) .idle fits with
      ⟨_, advanced⟩ | ⟨_, _, advanced⟩ | ⟨_, _, advanced⟩ <;>
    · rw [Session.new, advanced]
      simp
  refine ⟨⟨sound, started.1, rfl, isNone_question? sound started.1, fun _ => ?_⟩, rfl, rfl⟩
  change [] = exchangesAlong analysis (Session.new analysis).start.answers
  rw [started.2]
  rfl

theorem submit_of_question?_eq_none (closed : app.question? = none) : app.submit = app := by
  rw [submit, closed]

theorem inStep_submit (inStep : InStep analysis app) {question : Question}
    (asks : app.question? = some question) :
    InStep analysis app.submit ∧
      app.submit.session = (app.session.call (.submit app.typed)).1 ∧ app.submit.typed = [] := by
  obtain ⟨told, answered, taken, started, kept, running, answers⟩ :=
    submit_of_question? inStep.sound (inStep.question ▸ asks) app.typed
  have sound : Sound analysis answered := sound_submit inStep.sound taken
  have moved : (app.session.call (.submit app.typed)).1 = answered := by
    rw [Session.call, taken]
  have submitted : app.submit = { app.record question with
      session := answered
      question? := answered.question?
      typed := []
      planScroll := 0
      marks := { app.marks with current? := answered.question?.bind Question.line? }
      finished := answered.question?.isNone
      message := answeredMessage answered.question? } := by
    rw [submit, asks]
    simp only [taken]
  rw [moved, submitted]
  refine ⟨⟨sound, started, rfl, isNone_question? sound started, fun _ => ?_⟩, rfl, rfl⟩
  have before : app.exchanges = exchangesAlong analysis app.session.answers :=
    inStep.exchanges running
  simp only [answers, record]
  split
  · exact before
  · rw [exchangesAlong_concat, ← told, before]
    rfl

theorem inStep_cancel (inStep : InStep analysis app) :
    InStep analysis app.cancel ∧ app.cancel.session = (app.session.call .cancel).1 ∧
      app.cancel.typed = app.typed := by
  cases taken : app.session.cancel with
  | error error =>
      have refused : app.cancel = { app with message := error.message } := by
        rw [cancel, taken]
      rw [refused, Session.call, taken]
      exact ⟨inStep.of_eq rfl rfl rfl rfl, rfl, rfl⟩
  | ok abandoned =>
      have phase : abandoned.phase = .cancelled ∧ abandoned.question? = none := by
        unfold Session.cancel at taken
        split at taken
        · cases taken
        · cases taken
          exact ⟨rfl, rfl⟩
      have sound : Sound analysis abandoned := sound_cancel inStep.sound taken
      rw [cancel, Session.call, taken]
      refine ⟨⟨sound, ?_, ?_, ?_, ?_⟩, rfl, rfl⟩
      · simp [phase.1]
      · exact phase.2.symm
      · simp [phase.1, Phase.isFinal]
      · intro running
        exact absurd phase.1 running

theorem inStep_turn (inStep : InStep analysis app) (turn : Turn) :
    InStep analysis (app.turn turn) := by
  cases turn with
  | shown layout => exact inStep.of_eq rfl rfl rfl rfl
  | key key =>
      cases key with
      | enter =>
          cases asks : app.question? with
          | none =>
              rw [App.turn, press, submit_of_question?_eq_none asks]
              exact inStep
          | some question => exact (inStep_submit inStep asks).1
      | cancel => exact (inStep_cancel inStep).1
      | up =>
          rw [App.turn, press, scrollUp]
          split <;> exact inStep.of_eq rfl rfl rfl rfl
      | down =>
          rw [App.turn, press, scrollDown]
          split <;> exact inStep.of_eq rfl rfl rfl rfl
      | _ => exact inStep.of_eq rfl rfl rfl rfl

/-- Turns move the session by the calls they stand for. -/
theorem afterCalls_callsOf_turn (inStep : InStep analysis app) (turn : Turn) (turns : List Turn) :
    app.session.afterCalls (callsOf app.session app.typed (turn :: turns)) =
      (app.turn turn).session.afterCalls
        (callsOf (app.turn turn).session (app.turn turn).typed turns) := by
  cases turn with
  | shown layout => rfl
  | key key =>
      cases key with
      | enter =>
          rw [callsOf_enter, ← inStep.question]
          cases asks : app.question? with
          | none =>
              rw [App.turn, press, submit_of_question?_eq_none asks]
              rfl
          | some question =>
              obtain ⟨_, moved, emptied⟩ := inStep_submit inStep asks
              rw [App.turn, press, moved, emptied]
              rfl
      | cancel =>
          obtain ⟨_, moved, typed⟩ := inStep_cancel inStep
          rw [callsOf_cancel, App.turn, press, moved, typed]
          rfl
      | up =>
          rw [App.turn, press, scrollUp]
          split <;> rfl
      | down =>
          rw [App.turn, press, scrollDown]
          split <;> rfl
      | _ => rfl

/-! ## Any number of turns -/

theorem inStep_afterTurns (inStep : InStep analysis app) (turns : List Turn) :
    InStep analysis (app.afterTurns turns) ∧
      (app.afterTurns turns).session =
        app.session.afterCalls (callsOf app.session app.typed turns) := by
  induction turns generalizing app with
  | nil => exact ⟨inStep, rfl⟩
  | cons turn turns inductionHypothesis =>
      rw [afterCalls_callsOf_turn inStep]
      exact inductionHypothesis (inStep_turn inStep turn)

/-- What can be relied on behind turns.  The copies of the application are those of its session, its
transcript lists the answers with the questions they were given to, the session is the one that the
calls alone lead to, and no answer to an open question is refused. -/
structure Mirrors (analysis : Analysis) (turns : List Turn) (app : App) : Prop where
  question : app.question? = app.session.question?
  finished : app.finished = true ↔
    app.session.phase = .completed ∨ app.session.phase = .cancelled
  answers : app.session.phase ≠ .cancelled →
    app.exchanges.map Exchange.answer = app.session.answers
  numbers : app.session.phase ≠ .cancelled →
    app.exchanges.map Exchange.number = List.range' 1 app.exchanges.length
  asked : app.session.phase ≠ .cancelled → ∀ index exchange,
    app.exchanges[index]? = some exchange →
      exchange.prompt = (questionAfter analysis (app.session.answers.take index)).text ∧
        exchange.iteration? =
          (questionAfter analysis (app.session.answers.take index)).iteration?
  asks : ∀ question, app.question? = some question →
    question = questionAfter analysis app.session.answers
  session : app.session = (Session.new analysis).afterCalls
    (.start :: callsOf (Session.new analysis).start [] turns)
  accepted : ∀ question, app.question? = some question →
    ∀ value, ∃ answered, app.session.submit value = .ok answered

theorem InStep.mirrors {turns : List Turn} (inStep : InStep analysis app)
    (session : app.session = (Session.new analysis).afterCalls
      (.start :: callsOf (Session.new analysis).start [] turns)) :
    Mirrors analysis turns app := by
  have asks : ∀ question, app.question? = some question →
      app.session.question? = some question := by
    intro question asked
    rw [← inStep.question]
    exact asked
  constructor
  case question => exact inStep.question
  case finished =>
    rw [inStep.finished]
    cases app.session.phase <;> simp [Phase.isFinal]
  case answers =>
    intro running
    rw [inStep.exchanges running]
    exact answer_exchangesAlong _
  case numbers =>
    intro running
    have length : app.exchanges.length = app.session.answers.length := by
      rw [inStep.exchanges running, exchangesAlong, List.length_mapIdx]
    rw [length, inStep.exchanges running]
    exact number_exchangesAlong _
  case asked =>
    intro running index exchange listed
    rw [inStep.exchanges running, exchangesAlong, List.getElem?_mapIdx] at listed
    obtain ⟨answer, _, rfl⟩ := Option.map_eq_some_iff.mp listed
    exact ⟨rfl, rfl⟩
  case asks =>
    intro question asked
    exact (submit_of_question? inStep.sound (asks question asked) []).1
  case session => exact session
  case accepted =>
    intro question asked value
    obtain ⟨_, answered, taken, _⟩ := submit_of_question? inStep.sound (asks question asked) value
    exact ⟨answered, taken⟩

/-- An application that is launched for an analysis keeps in step with its session, whatever keys
are pressed and however it is shown in between. -/
theorem mirrors_afterTurns (launched : launch (Session.new analysis) = .ok app)
    (turns : List Turn) : Mirrors analysis turns (app.afterTurns turns) := by
  obtain ⟨inStep, session, typed⟩ := inStep_launch launched
  obtain ⟨kept, moved⟩ := inStep_afterTurns inStep turns
  apply kept.mirrors
  rw [moved, session, typed]
  rfl

/-- A program that reads one value and asks for it. -/
def oneQuestion : Analysis :=
  let site : PlacedSite := .outside ⟨⟨4, 16⟩, some "a".toList, some "a: ".toList⟩
  ⟨.python, "a = input('a: ')\n".toList, ⟨none, none, [site], []⟩, [⟨"a: ".toList, site, false⟩]⟩

theorem mirrors_oneQuestion :
    ∃ app, launch (Session.new oneQuestion) = .ok app ∧
      Mirrors oneQuestion [.key (.character '7'), .key .enter, .key .cancel]
        (app.afterTurns [.key (.character '7'), .key .enter, .key .cancel]) := by
  have launched : ∃ app, launch (Session.new oneQuestion) = .ok app := ⟨_, rfl⟩
  obtain ⟨app, launched⟩ := launched
  exact ⟨app, launched, mirrors_afterTurns launched _⟩

/-! ## Runs -/

theorem exists_launch {language : Language} {source : Text}
    (analyzed : analyze language source = .ok analysis) :
    ∃ app, launch (Session.new analysis) = .ok app := by
  obtain ⟨lines?, lines⟩ := exists_loopLines_of_analyze analyzed
  exact exists_ok_bind ⟨lines?, lines⟩ fun _ _ => ⟨_, rfl⟩

/-- What is played are turns: every key that is taken has a picture before it, and a last picture
stands at the end. -/
theorem run_eq_afterTurns (layout : Layout) (cursor : Nat × Nat) (keys : List Key) :
    ∃ taken, taken <+: keys ∧ (app.run layout cursor keys).2 =
      app.afterTurns (taken.flatMap (fun key => [.shown layout, .key key]) ++ [.shown layout]) := by
  induction keys generalizing app cursor with
  | nil => exact ⟨[], List.prefix_refl [], rfl⟩
  | cons key keys inductionHypothesis =>
      by_cases finished : (app.settle layout).finished
      · refine ⟨[], List.nil_prefix, ?_⟩
        rw [run, if_pos finished]
        rfl
      · obtain ⟨taken, front, played⟩ := @inductionHypothesis
          ((app.settle layout).press key) ((app.settle layout).frame layout cursor).cursor
        refine ⟨key :: taken, List.cons_prefix_cons.mpr ⟨rfl, front⟩, ?_⟩
        rw [run, if_neg finished]
        exact played

end App

end InputDemand
