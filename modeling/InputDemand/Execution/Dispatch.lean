import InputDemand.Execution.Request
import InputDemand.Session.Basic

/-!
# Handing a session over

Only a completed session becomes a request, and only a request reaches the executor.
-/

namespace InputDemand

/-- Why a session was not run. -/
inductive DispatchError where
  | cancelled
  /-- Questions are still open. -/
  | notCompleted (phase : Phase)
  | executor (message : Text)
deriving DecidableEq, Repr

namespace DispatchError

def message : DispatchError → Text
  | cancelled => "Run was cancelled; nothing dispatched".toList
  | notCompleted phase =>
      "Cannot dispatch an unfinished session (state: ".toList ++ phase.text ++ [')']
  | executor message => "Execution failed: ".toList ++ message

/-- What an error of the session means for its execution. -/
def ofSession : SessionError → DispatchError
  | .userCancelled => cancelled
  | .notAwaiting phase => notCompleted phase

end DispatchError

namespace Session

/-- The request that a completed session makes. -/
def request (session : Session) : Except DispatchError Request :=
  match session.phase with
  | .completed => .ok ⟨session.analysis.source, session.analysis.language, session.answers⟩
  | .cancelled => .error .cancelled
  | phase => .error (.notCompleted phase)

/-- Has a completed session executed; any other session never reaches the executor. -/
def dispatch {m : Type → Type} [Monad m] (session : Session)
    (execute : Request → m (Except DispatchError Response)) : m (Except DispatchError Response) :=
  match session.request with
  | .error error => pure (.error error)
  | .ok request => execute request

end Session

end InputDemand
