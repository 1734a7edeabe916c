import InputDemand.Session.Basic

/-!
# Driving a session

A session is driven by replies, one to each question, until it ends or the replies run out.  Then
it is cancelled, or, if the replies may end that way, a question for a value beyond the plan is
answered by a blank.
-/

namespace InputDemand

/-- What is done with a question. -/
inductive Reply where
  | value (text : Text)
  | cancel
deriving DecidableEq, Repr

/-- A session driven to its end. -/
structure Driven where
  session : Session
  result : Except SessionError (List Text)
  /-- All questions that were put, in order. -/
  asked : List Question
  /-- The replies that were not needed. -/
  unused : List Reply

namespace Session

def outcome (session : Session) : Except SessionError (List Text) :=
  if session.phase = .completed then .ok session.answers else .error .userCancelled

/-- The end of a session that is cancelled at a question. -/
def abandoned (session : Session) (question : Question) (unused : List Reply) : Driven :=
  match session.cancel with
  | .error error => ⟨session, .error error, [question], unused⟩
  | .ok cancelled => ⟨cancelled, .error .userCancelled, [question], unused⟩

/-- The end of a session at a question for which no reply is left. -/
def exhausted (blankEnds : Bool) (session : Session) (question : Question) : Driven :=
  if blankEnds && question.manual then
    match session.submit [] with
    | .error error => ⟨session, .error error, [question], []⟩
    | .ok ended => ⟨ended, ended.outcome, [question], []⟩
  else session.abandoned question []

/-- Drives a session that has started. -/
def goOn (blankEnds : Bool) (session : Session) : List Reply → Driven
  | [] =>
      match session.question? with
      | none => ⟨session, session.outcome, [], []⟩
      | some question => session.exhausted blankEnds question
  | reply :: replies =>
      match session.question? with
      | none => ⟨session, session.outcome, [], reply :: replies⟩
      | some question =>
          match reply with
          | .cancel => session.abandoned question replies
          | .value text =>
              match session.submit text with
              | .error error => ⟨session, .error error, [question], replies⟩
              | .ok answered =>
                  let driven := goOn blankEnds answered replies
                  { driven with asked := question :: driven.asked }

def drive (session : Session) (blankEnds : Bool) (replies : List Reply) : Driven :=
  session.start.goOn blankEnds replies

/-- Drives a session by prepared answers.  When they run out, a blank ends the values beyond the
plan, and any other question cancels the session. -/
def driveScript (session : Session) (answers : List Text) : Driven :=
  session.drive true (answers.map .value)

end Session

end InputDemand
