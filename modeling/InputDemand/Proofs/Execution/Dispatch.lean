import InputDemand.Execution.Dispatch
import InputDemand.Proofs.Session.Calls

/-!
# What reaches the executor

A session is called and handed over in any order.  Its phase alone decides whether a hand-over
reaches the executor, and the two final phases are never left.  So all requests that reach the
executor in a run are one and the same, that of the session as the run leaves it, and there are none
unless that session is completed.
-/

namespace InputDemand

/-- An executor that keeps the requests that reach it, the latest last. -/
def recording (respond : Request → Except DispatchError Response) (request : Request) :
    StateM (List Request) (Except DispatchError Response) := do
  modify fun reached => reached ++ [request]
  return respond request

/-- What can happen to a session: a call, or an attempt to have it executed. -/
inductive Event where
  | call (call : Call)
  | dispatch
deriving DecidableEq, Repr

/-- The call that an event makes, if it makes one. -/
def Event.call? : Event → Option Call
  | call made => some made
  | dispatch => none

namespace Session

/-- The session behind an event; a hand-over leaves it as it is. -/
def afterEvent (respond : Request → Except DispatchError Response) (session : Session) :
    Event → StateM (List Request) Session
  | .call call => return (session.call call).1
  | .dispatch => do
      let _ ← session.dispatch (recording respond)
      return session

def afterEvents (respond : Request → Except DispatchError Response) (session : Session)
    (events : List Event) : StateM (List Request) Session :=
  events.foldlM (afterEvent respond) session

/-- How a session about a program stands towards its execution.  Completed, it reaches the executor
exactly once for every hand-over; in any other phase never.  It does not leave a final phase, and
once it is cancelled nothing that happens to it reaches the executor. -/
structure Gated (analysis : Analysis) (session : Session) : Prop where
  completed : session.phase = .completed → ∀ respond reached,
    (session.dispatch (recording respond)).run reached =
      (respond ⟨analysis.source, analysis.language, session.answers⟩,
        reached ++ [⟨analysis.source, analysis.language, session.answers⟩])
  cancelled : session.phase = .cancelled → ∀ respond reached,
    (session.dispatch (recording respond)).run reached = (.error .cancelled, reached)
  unfinished : session.phase.isFinal = false → ∀ respond reached,
    (session.dispatch (recording respond)).run reached =
      (.error (.notCompleted session.phase), reached)
  absorbed : session.phase.isFinal = true → ∀ calls, session.afterCalls calls = session
  abandoned : ∀ abandoned, session.cancel = .ok abandoned → ∀ respond events reached,
    (abandoned.afterEvents respond events).run reached = (abandoned, reached)

variable {analysis : Analysis} {session : Session}

/-! ## The gate -/

section Gate

variable {m : Type → Type} [Monad m]
  {execute : Request → m (Except DispatchError Response)}

theorem dispatch_of_completed (phase : session.phase = .completed) :
    session.dispatch execute =
      execute ⟨session.analysis.source, session.analysis.language, session.answers⟩ := by
  simp only [dispatch, request, phase]

theorem dispatch_of_cancelled (phase : session.phase = .cancelled) :
    session.dispatch execute = pure (.error .cancelled) := by
  simp only [dispatch, request, phase]

theorem dispatch_of_unfinished (phase : session.phase.isFinal = false) :
    session.dispatch execute = pure (.error (.notCompleted session.phase)) := by
  cases reached : session.phase with
  | completed => simp [Phase.isFinal, reached] at phase
  | cancelled => simp [Phase.isFinal, reached] at phase
  | _ => simp only [dispatch, request, reached]

end Gate

/-! ## Final phases -/

theorem call_of_final (final : session.phase.isFinal = true) (call : Call) :
    (session.call call).1 = session := by
  have notIdle : session.phase ≠ .idle := by
    intro idle
    simp [idle, Phase.isFinal] at final
  cases call with
  | start => simp [Session.call, start, notIdle]
  | submit value =>
      cases taken : session.submit value with
      | error reason => simp only [Session.call, taken]
      | ok answered =>
          unfold submit at taken
          cases phase : session.phase <;> simp_all [Phase.isFinal]
  | cancel =>
      cases taken : session.cancel with
      | error reason => simp only [Session.call, taken]
      | ok abandoned => simp [cancel, final] at taken

theorem afterCalls_of_final (final : session.phase.isFinal = true) (calls : List Call) :
    session.afterCalls calls = session := by
  induction calls with
  | nil => rfl
  | cons call calls inductionHypothesis =>
      unfold afterCalls at inductionHypothesis ⊢
      rw [List.foldl_cons, call_of_final final]
      exact inductionHypothesis

/-! ## Calls and hand-overs in any order -/

/-- What has reached the executor of a session that has come to where it is: only its own request,
and that only if it is completed. -/
def Reached (session : Session) (reached : List Request) : Prop :=
  ∀ request ∈ reached, session.phase = .completed ∧
    request = ⟨session.analysis.source, session.analysis.language, session.answers⟩

/-- A call that changes the session is made before anything has reached the executor. -/
theorem Reached.call {reached : List Request} (sound : session.Reached reached) (call : Call) :
    (session.call call).1.Reached reached := by
  intro request member
  -- Something has got through, so the session is completed and the call changes nothing.
  obtain ⟨completed, own⟩ := sound request member
  have final : session.phase.isFinal = true := by
    rw [completed]
    rfl
  rw [call_of_final final call]
  exact ⟨completed, own⟩

/-- What a hand-over adds is nothing, or the session's own request if it is completed. -/
theorem Reached.dispatch {reached : List Request} (sound : session.Reached reached)
    (respond : Request → Except DispatchError Response) :
    session.Reached ((session.dispatch (recording respond)).run reached).2 := by
  cases phase : session.phase with
  | completed =>
      rw [dispatch_of_completed phase]
      intro request member
      rcases List.mem_append.mp member with earlier | latest
      · exact sound request earlier
      · exact ⟨phase, List.mem_singleton.mp latest⟩
  | cancelled =>
      rw [dispatch_of_cancelled phase]
      exact sound
  | _ =>
      rw [dispatch_of_unfinished (by rw [phase]; rfl)]
      exact sound

@[simp]
theorem run_afterEvents_call (respond : Request → Except DispatchError Response) (call : Call)
    (events : List Event) (reached : List Request) :
    (session.afterEvents respond (.call call :: events)).run reached =
      ((session.call call).1.afterEvents respond events).run reached := by
  rw [afterEvents, List.foldlM_cons, afterEvent, pure_bind]
  rfl

@[simp]
theorem run_afterEvents_dispatch (respond : Request → Except DispatchError Response)
    (events : List Event) (reached : List Request) :
    (session.afterEvents respond (.dispatch :: events)).run reached =
      (session.afterEvents respond events).run
        ((session.dispatch (recording respond)).run reached).2 := by
  rw [afterEvents, List.foldlM_cons, afterEvent, bind_assoc, StateT.run_bind]
  rfl

/-- Events move the session as their calls alone would, and keep to what may reach the executor. -/
theorem run_afterEvents (respond : Request → Except DispatchError Response) (events : List Event)
    {reached : List Request} (sound : session.Reached reached) :
    ((session.afterEvents respond events).run reached).1 =
        session.afterCalls (events.filterMap Event.call?) ∧
      (session.afterCalls (events.filterMap Event.call?)).Reached
        ((session.afterEvents respond events).run reached).2 := by
  induction events generalizing session reached with
  | nil => exact ⟨rfl, sound⟩
  | cons event events inductionHypothesis =>
      cases event with
      | call call =>
          rw [run_afterEvents_call]
          exact inductionHypothesis (sound.call call)
      | dispatch =>
          rw [run_afterEvents_dispatch]
          exact inductionHypothesis (sound.dispatch respond)

/-- A cancelled session stays as it is and lets nothing through. -/
theorem run_afterEvents_of_cancelled (phase : session.phase = .cancelled)
    (respond : Request → Except DispatchError Response) (events : List Event)
    (reached : List Request) :
    (session.afterEvents respond events).run reached = (session, reached) := by
  induction events with
  | nil => rfl
  | cons event events inductionHypothesis =>
      cases event with
      | call call =>
          have same : (session.call call).1 = session :=
            call_of_final (by rw [phase]; rfl) call
          rw [run_afterEvents_call, same]
          exact inductionHypothesis
      | dispatch =>
          rw [run_afterEvents_dispatch, dispatch_of_cancelled phase]
          exact inductionHypothesis

theorem phase_of_cancel {abandoned : Session} (taken : session.cancel = .ok abandoned) :
    abandoned.phase = .cancelled := by
  unfold cancel at taken
  split at taken
  · cases taken
  · cases taken
    rfl

theorem analysis_of_sound (sound : Sound analysis session) : session.analysis = analysis := by
  cases sound <;> rfl

/-- Behind any calls the phase decides alone what reaches the executor, and the final phases last.
Whatever order hand-overs and calls come in, all that has reached the executor is the request of
the session at the end, which is completed then. -/
theorem gated_afterEvents (analysis : Analysis) :
    (∀ calls, Gated analysis ((new analysis).afterCalls calls)) ∧
      ∀ respond events,
        let ended := ((new analysis).afterEvents respond events).run []
        ended.1 = (new analysis).afterCalls (events.filterMap Event.call?) ∧
          ∀ request ∈ ended.2, ended.1.phase = .completed ∧
            request = ⟨analysis.source, analysis.language, ended.1.answers⟩ := by
  have about : ∀ calls, ((new analysis).afterCalls calls).analysis = analysis := fun calls =>
    analysis_of_sound (sound_afterCalls .idle calls)
  constructor
  · intro calls
    have about := about calls
    generalize (new analysis).afterCalls calls = session at about
    constructor
    · intro phase respond reached
      rw [dispatch_of_completed phase, about]
      rfl
    · intro phase respond reached
      rw [dispatch_of_cancelled phase]
      rfl
    · intro phase respond reached
      rw [dispatch_of_unfinished phase]
      rfl
    · intro final calls
      exact afterCalls_of_final final calls
    · intro abandoned taken respond events reached
      exact run_afterEvents_of_cancelled (phase_of_cancel taken) respond events reached
  · intro respond events ended
    have nothing : (new analysis).Reached [] := fun request member => by cases member
    obtain ⟨same, reached⟩ := run_afterEvents respond events nothing
    refine ⟨same, ?_⟩
    rw [← same] at reached
    unfold Reached at reached
    rwa [same, about, ← same] at reached

end Session

end InputDemand
