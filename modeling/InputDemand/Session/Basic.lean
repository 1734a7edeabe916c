import InputDemand.Demand.Analysis

/-!
# Sessions

A session asks for one value at a time and makes the plan anew from all answers after each of them.
It asks by the plan while that lists further values; when an open-ended plan is used up it asks for
values one by one until a blank answer; it ends completed or cancelled.
-/

namespace InputDemand

/-- How far a session has come. -/
inductive Phase where
  /-- Nothing was asked yet. -/
  | idle
  /-- A value of the plan is asked for. -/
  | awaiting
  /-- A value beyond the plan is asked for. -/
  | manual
  | completed
  | cancelled
deriving DecidableEq, Repr

namespace Phase

def text : Phase → Text
  | idle => "Idle".toList
  | awaiting => "AwaitingAnswer".toList
  | manual => "ManualEntry".toList
  | completed => "Completed".toList
  | cancelled => "Cancelled".toList

def isFinal : Phase → Bool
  | completed | cancelled => true
  | _ => false

end Phase

/-- Why a session refuses something or ends without a result. -/
inductive SessionError where
  | userCancelled
  /-- No question is open. -/
  | notAwaiting (phase : Phase)
deriving DecidableEq, Repr

def SessionError.message : SessionError → Text
  | userCancelled => "Run cancelled by user".toList
  | notAwaiting phase =>
      "Session is not waiting for an answer (state: ".toList ++ phase.text ++ [')']

/-- A question that waits for its answer. -/
structure Question where
  /-- The number of the value asked for, counted from one. -/
  number : Nat
  text : Text
  iteration? : Option Iteration
  /-- Whether the value lies beyond the plan, so that a blank answer ends the session. -/
  manual : Bool
  /-- The line of the source that reads the value, if it is known. -/
  line? : Option Nat
deriving DecidableEq, Repr

/-- A session about a program. -/
structure Session where
  analysis : Analysis
  /-- In the order in which the program reads them. -/
  answers : List Text
  plan : Plan
  phase : Phase
deriving DecidableEq, Repr

namespace Session

def new (analysis : Analysis) : Session :=
  ⟨analysis, [], analysis.plan [], .idle⟩

def plannedQuestion (session : Session) (slot : Slot) : Question where
  number := session.answers.length + 1
  text := slot.prompt.text
  iteration? := slot.iteration?
  manual := false
  line? := some (slot.prompt.site.span.line session.analysis.source)

def manualQuestion (session : Session) : Question where
  number := session.answers.length + 1
  text := "Value ".toList ++ Text.ofNat (session.answers.length + 1)
  iteration? := none
  manual := true
  line? := none

def question? (session : Session) : Option Question :=
  match session.phase with
  | .awaiting => session.plan.slots[session.answers.length]?.map session.plannedQuestion
  | .manual => some session.manualQuestion
  | _ => none

/-- The phase that a plan leads to when some values have been answered. -/
def phaseFor (plan : Plan) (answered : Nat) : Phase :=
  if answered < plan.size then .awaiting
  else if plan.isComplete then .completed
  else .manual

/-- Makes the plan anew and goes on by it. -/
def advance (session : Session) : Session :=
  let plan := session.analysis.plan session.answers
  { session with plan := plan, phase := phaseFor plan session.answers.length }

/-- Starts a session; one that has started stays as it is. -/
def start (session : Session) : Session :=
  if session.phase = .idle then session.advance else session

def submit (session : Session) (value : Text) : Except SessionError Session :=
  match session.phase with
  | .awaiting => .ok { session with answers := session.answers ++ [value] }.advance
  | .manual =>
      if Text.blank value then .ok { session with phase := .completed }
      else .ok { session with answers := session.answers ++ [value] }
  | phase => .error (.notAwaiting phase)

/-- Gives up a session and drops its answers. -/
def cancel (session : Session) : Except SessionError Session :=
  if session.phase.isFinal then .error (.notAwaiting session.phase)
  else .ok { session with answers := [], phase := .cancelled }

/-- The number of values answered, and the number of all values if it is known. -/
def progress (session : Session) : Nat × Option Nat :=
  (session.answers.length,
    if session.phase = .manual then none
    else if session.plan.isComplete then some session.plan.size
    else none)

end Session

end InputDemand
