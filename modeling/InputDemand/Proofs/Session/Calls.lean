import InputDemand.Proofs.Demand.Stability
import InputDemand.Session.Basic

/-!
# Sessions under any sequence of calls

A session is started, answered and cancelled in any order.  What holds of its plan, its answers and
its phase behind every call is one invariant, `Sound`; every call keeps it, and what is asked and
what is said of the progress follows from it.
-/

namespace InputDemand

/-- What can be asked of a session from outside. -/
inductive Call where
  | start
  | submit (value : Text)
  | cancel
deriving DecidableEq, Repr

namespace Session

/-- The session behind a call, and what the call answers: the open question or an error. -/
def call (session : Session) : Call → Session × Except SessionError (Option Question)
  | .start => (session.start, .ok session.start.question?)
  | .submit value =>
      match session.submit value with
      | .ok answered => (answered, .ok answered.question?)
      | .error error => (session, .error error)
  | .cancel =>
      match session.cancel with
      | .ok cancelled => (cancelled, .ok none)
      | .error error => (session, .error error)

def afterCalls (session : Session) (calls : List Call) : Session :=
  calls.foldl (fun session call => (session.call call).1) session

/-- The sessions that calls lead to.  Until it is cancelled a session has the plan of its answers,
and its phase says how far they cover that plan. -/
inductive Sound (analysis : Analysis) : Session → Prop
  | idle : Sound analysis ⟨analysis, [], analysis.plan [], .idle⟩
  | awaiting (answers : List Text) :
      answers.length < (analysis.plan answers).size →
      Sound analysis ⟨analysis, answers, analysis.plan answers, .awaiting⟩
  | manual (answers : List Text) :
      (analysis.plan answers).halt? = some .openEnded →
      (analysis.plan answers).size ≤ answers.length →
      Sound analysis ⟨analysis, answers, analysis.plan answers, .manual⟩
  | completed (answers : List Text) :
      (analysis.plan answers).halt? = none →
      answers.length = (analysis.plan answers).size →
      Sound analysis ⟨analysis, answers, analysis.plan answers, .completed⟩
  | ended (answers : List Text) :
      (analysis.plan answers).halt? = some .openEnded →
      (analysis.plan answers).size ≤ answers.length →
      Sound analysis ⟨analysis, answers, analysis.plan answers, .completed⟩
  | cancelled (plan : Plan) : Sound analysis ⟨analysis, [], plan, .cancelled⟩

variable {analysis : Analysis} {session : Session}

/-! ## One call -/

/-- A plan whose slots are all answered is complete or open-ended; it waits for nothing. -/
theorem openEnded_of_covered {answers : List Text}
    (covered : (analysis.plan answers).size ≤ answers.length)
    (halted : (analysis.plan answers).halt? ≠ none) :
    (analysis.plan answers).halt? = some .openEnded := by
  cases halt : (analysis.plan answers).halt? with
  | none => exact absurd halt halted
  | some reason =>
      cases reason with
      | openEnded => rfl
      | pending name =>
          have unanswered : answers.length < (analysis.plan answers).size :=
            Outline.lt_size_of_pending halt
          omega

theorem phaseFor_of_lt {plan : Plan} {answered : Nat} (more : answered < plan.size) :
    phaseFor plan answered = .awaiting := by
  simp [phaseFor, more]

theorem phaseFor_of_complete {plan : Plan} {answered : Nat} (covered : plan.size ≤ answered)
    (complete : plan.halt? = none) : phaseFor plan answered = .completed := by
  simp [phaseFor, Plan.isComplete, Nat.not_lt.mpr covered, complete]

theorem phaseFor_of_halted {plan : Plan} {answered : Nat} (covered : plan.size ≤ answered)
    (halted : plan.halt? ≠ none) : phaseFor plan answered = .manual := by
  simp [phaseFor, Plan.isComplete, Nat.not_lt.mpr covered, halted]

/-- Where a session goes on by the plan of its answers, if there are not more answers than slots. -/
theorem advance_cases {answers : List Text} (plan : Plan) (phase : Phase)
    (fits : answers.length ≤ (analysis.plan answers).size) :
    (answers.length < (analysis.plan answers).size ∧
      advance ⟨analysis, answers, plan, phase⟩ =
        ⟨analysis, answers, analysis.plan answers, .awaiting⟩) ∨
    ((analysis.plan answers).halt? = none ∧
      answers.length = (analysis.plan answers).size ∧
      advance ⟨analysis, answers, plan, phase⟩ =
        ⟨analysis, answers, analysis.plan answers, .completed⟩) ∨
    ((analysis.plan answers).halt? = some .openEnded ∧
      (analysis.plan answers).size ≤ answers.length ∧
      advance ⟨analysis, answers, plan, phase⟩ =
        ⟨analysis, answers, analysis.plan answers, .manual⟩) := by
  have advanced : advance ⟨analysis, answers, plan, phase⟩ =
      ⟨analysis, answers, analysis.plan answers,
        phaseFor (analysis.plan answers) answers.length⟩ := rfl
  rw [advanced]
  by_cases more : answers.length < (analysis.plan answers).size
  · rw [phaseFor_of_lt more]
    exact Or.inl ⟨more, rfl⟩
  · have covered : (analysis.plan answers).size ≤ answers.length := Nat.not_lt.mp more
    by_cases complete : (analysis.plan answers).halt? = none
    · rw [phaseFor_of_complete covered complete]
      exact Or.inr (Or.inl ⟨complete, Nat.le_antisymm fits covered, rfl⟩)
    · rw [phaseFor_of_halted covered complete]
      exact Or.inr (Or.inr ⟨openEnded_of_covered covered complete, covered, rfl⟩)

theorem sound_advance {answers : List Text} (plan : Plan) (phase : Phase)
    (fits : answers.length ≤ (analysis.plan answers).size) :
    Sound analysis (advance ⟨analysis, answers, plan, phase⟩) := by
  rcases advance_cases plan phase fits with
    ⟨more, advanced⟩ | ⟨complete, covered, advanced⟩ | ⟨openEnded, covered, advanced⟩
  · rw [advanced]
    exact .awaiting answers more
  · rw [advanced]
    exact .completed answers complete covered
  · rw [advanced]
    exact .manual answers openEnded covered

/-- An answer to a planned question leaves as many slots as answers, or more. -/
theorem length_le_size_append {answers : List Text}
    (unanswered : answers.length < (analysis.plan answers).size) (value : Text) :
    (answers ++ [value]).length ≤ (analysis.plan (answers ++ [value])).size := by
  have grown : (analysis.plan answers).size ≤ (analysis.plan (answers ++ [value])).size :=
    Outline.size_le_size_append analysis.outline analysis.prompts answers [value]
  rw [List.length_append, List.length_singleton]
  omega

/-- An answer beyond an open-ended plan does not change that plan. -/
theorem sound_manual_append {answers : List Text}
    (openEnded : (analysis.plan answers).halt? = some .openEnded)
    (covered : (analysis.plan answers).size ≤ answers.length) (value : Text) :
    Sound analysis ⟨analysis, answers ++ [value], analysis.plan answers, .manual⟩ := by
  have settled : analysis.plan (answers ++ [value]) = analysis.plan answers :=
    Outline.plan_append_of_size_le covered [value]
  have longer : (analysis.plan (answers ++ [value])).size ≤ (answers ++ [value]).length := by
    rw [settled, List.length_append]
    omega
  rw [← settled] at openEnded ⊢
  exact .manual (answers ++ [value]) openEnded longer

theorem sound_start (sound : Sound analysis session) : Sound analysis session.start := by
  cases sound with
  | idle => exact sound_advance _ _ (Nat.zero_le _)
  | awaiting answers unanswered => exact .awaiting answers unanswered
  | manual answers openEnded covered => exact .manual answers openEnded covered
  | completed answers complete covered => exact .completed answers complete covered
  | ended answers openEnded covered => exact .ended answers openEnded covered
  | cancelled plan => exact .cancelled plan

/-- A submitted value is refused, or taken by a session that stays sound. -/
theorem sound_submit (sound : Sound analysis session) {value : Text} {answered : Session}
    (taken : session.submit value = .ok answered) : Sound analysis answered := by
  cases sound with
  | idle => cases taken
  | awaiting answers unanswered =>
      cases taken
      exact sound_advance _ _ (length_le_size_append unanswered value)
  | manual answers openEnded covered =>
      simp only [submit] at taken
      split at taken
      · cases taken
        exact .ended answers openEnded covered
      · cases taken
        exact sound_manual_append openEnded covered value
  | completed answers complete covered => cases taken
  | ended answers openEnded covered => cases taken
  | cancelled plan => cases taken

theorem sound_cancel (sound : Sound analysis session) {abandoned : Session}
    (taken : session.cancel = .ok abandoned) : Sound analysis abandoned := by
  cases sound with
  | completed answers complete covered => cases taken
  | ended answers openEnded covered => cases taken
  | cancelled plan => cases taken
  | _ =>
      cases taken
      exact .cancelled _

theorem submit_eq_error {value : Text} {error : SessionError}
    (refused : session.submit value = .error error) :
    error = .notAwaiting session.phase := by
  unfold submit at refused
  split at refused
  · cases refused
  · split at refused <;> cases refused
  · cases refused
    rfl

theorem cancel_eq_error {error : SessionError} (refused : session.cancel = .error error) :
    error = .notAwaiting session.phase := by
  unfold cancel at refused
  split at refused
  · cases refused
    rfl
  · cases refused

/-- A refused call leaves the session as it was, and names the phase that refuses it. -/
theorem call_eq_error {call : Call} {error : SessionError}
    (refused : (session.call call).2 = .error error) :
    (session.call call).1 = session ∧ error = .notAwaiting session.phase := by
  cases call with
  | start => cases refused
  | submit value =>
      cases taken : session.submit value with
      | ok answered =>
          simp only [Session.call, taken] at refused
          cases refused
      | error reason =>
          simp only [Session.call, taken] at refused ⊢
          cases refused
          exact ⟨trivial, submit_eq_error taken⟩
  | cancel =>
      cases taken : session.cancel with
      | ok abandoned =>
          simp only [Session.call, taken] at refused
          cases refused
      | error reason =>
          simp only [Session.call, taken] at refused ⊢
          cases refused
          exact ⟨trivial, cancel_eq_error taken⟩

/-! ## Any number of calls -/

theorem sound_call (sound : Sound analysis session) (call : Call) :
    Sound analysis (session.call call).1 := by
  cases call with
  | start => exact sound_start sound
  | submit value =>
      cases taken : session.submit value with
      | ok answered =>
          simp only [Session.call, taken]
          exact sound_submit sound taken
      | error error =>
          simp only [Session.call, taken]
          exact sound
  | cancel =>
      cases taken : session.cancel with
      | ok abandoned =>
          simp only [Session.call, taken]
          exact sound_cancel sound taken
      | error error =>
          simp only [Session.call, taken]
          exact sound

theorem sound_afterCalls (sound : Sound analysis session) (calls : List Call) :
    Sound analysis (session.afterCalls calls) := by
  induction calls generalizing session with
  | nil => exact sound
  | cons call calls inductionHypothesis =>
      exact inductionHypothesis (sound_call sound call)

/-! ## What calls cannot break -/

/-- What callers may rely on: the plan is that of the answers unless these were dropped; a session
that awaits an answer asks the first slot without one; it asks beyond a plan only if that is
open-ended, and completes with all slots of its plan answered. -/
structure Dependable (analysis : Analysis) (session : Session) : Prop where
  planned : session.phase ≠ .cancelled → session.plan = analysis.plan session.answers
  awaiting : session.phase = .awaiting →
    session.answers.length < session.plan.size ∧
      ∃ slot, session.plan.slots[session.answers.length]? = some slot ∧
        session.question? = some {
          number := session.answers.length + 1
          text := slot.prompt.text
          iteration? := slot.iteration?
          manual := false
          line? := some (slot.prompt.site.span.line analysis.source) }
  manual : session.phase = .manual →
    session.plan.halt? = some .openEnded ∧ session.plan.size ≤ session.answers.length
  completed : session.phase = .completed →
    (session.plan.halt? = none ∧ session.answers.length = session.plan.size) ∨
      (session.plan.halt? = some .openEnded ∧ session.plan.size ≤ session.answers.length)
  cancelled : session.phase = .cancelled → session.answers = []
  progress : ∀ total, session.progress.2 = some total → session.progress.1 ≤ total
  refused : ∀ call error, (session.call call).2 = .error error →
    (session.call call).1 = session ∧ error = .notAwaiting session.phase

theorem question?_of_awaiting {answers : List Text}
    (unanswered : answers.length < (analysis.plan answers).size) :
    ∃ slot, (analysis.plan answers).slots[answers.length]? = some slot ∧
      question? ⟨analysis, answers, analysis.plan answers, .awaiting⟩ =
        some (plannedQuestion ⟨analysis, answers, analysis.plan answers, .awaiting⟩ slot) := by
  obtain ⟨slot, found⟩ : ∃ slot, (analysis.plan answers).slots[answers.length]? = some slot :=
    ⟨_, Array.getElem?_eq_getElem unanswered⟩
  refine ⟨slot, found, ?_⟩
  simp only [question?, found, Option.map_some]

theorem progress_le_total (sound : Sound analysis session) {total : Nat}
    (known : session.progress.2 = some total) : session.progress.1 ≤ total := by
  cases sound with
  | idle => exact Nat.zero_le _
  | awaiting answers unanswered =>
      simp only [progress] at known ⊢
      split at known
      · cases known
      · split at known
        · cases known
          exact Nat.le_of_lt unanswered
        · cases known
  | manual answers openEnded covered => cases known
  | completed answers complete covered =>
      simp only [progress, Plan.isComplete, complete] at known ⊢
      cases known
      exact Nat.le_of_eq covered
  | ended answers openEnded covered =>
      simp only [progress, Plan.isComplete, openEnded] at known
      cases known
  | cancelled plan => exact Nat.zero_le _

/-- Sessions are dependable behind any sequence of calls. -/
theorem dependable_afterCalls (analysis : Analysis) (calls : List Call) :
    Dependable analysis ((new analysis).afterCalls calls) := by
  have sound : Sound analysis ((new analysis).afterCalls calls) :=
    sound_afterCalls .idle calls
  generalize (new analysis).afterCalls calls = session at sound
  constructor
  · intro notCancelled
    cases sound with
    | cancelled plan => exact absurd rfl notCancelled
    | _ => rfl
  · intro phase
    cases sound with
    | awaiting answers unanswered =>
        obtain ⟨slot, found, asked⟩ := question?_of_awaiting unanswered
        exact ⟨unanswered, slot, found, asked⟩
    | _ => cases phase
  · intro phase
    cases sound with
    | manual answers openEnded covered => exact ⟨openEnded, covered⟩
    | _ => cases phase
  · intro phase
    cases sound with
    | completed answers complete covered => exact Or.inl ⟨complete, covered⟩
    | ended answers openEnded covered => exact Or.inr ⟨openEnded, covered⟩
    | _ => cases phase
  · intro phase
    cases sound with
    | cancelled plan => rfl
    | _ => cases phase
  · intro total known
    exact progress_le_total sound known
  · intro call error refused
    exact call_eq_error refused

end Session

end InputDemand
