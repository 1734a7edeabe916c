import InputDemand.Proofs.Demand.Exits
import InputDemand.Proofs.Demand.Influence
import InputDemand.Proofs.Session.Calls

/-!
# What a plan waits for

A trail knows of every name what was answered to the last slot that asks for it, and nothing else.
So a plan that waits for a name waits for the answer to its last slot for that name; only counts
make it wait, and they look up the bounds of the two loops.  Since that slot is one without an
answer, a session goes on asking by the plan: it neither turns to manual entry nor completes.
-/

namespace InputDemand

/-! ## The latest slot of a name -/

/-- What the position of the last asking slot says. -/
theorem lastAsking?_eq_some {name : Text} {slots : List Slot} {position : Nat}
    (last : lastAsking? name slots = some position) :
    (∃ slot, slots[position]? = some slot ∧ slot.asks name = true) ∧
      ∀ (later : Nat) (slot : Slot), position < later → slots[later]? = some slot →
        slot.asks name = false := by
  -- From behind, since the last slot decides before those in front of it.
  induction slots using List.reverseRecOn with
  | nil => cases last
  | append_singleton slots slot inductionHypothesis =>
      rw [Trail.lastAsking?_concat] at last
      split at last
      · rename_i asks
        cases last
        refine ⟨⟨slot, List.getElem?_concat_length, asks⟩, fun later other behind found => ?_⟩
        rw [List.getElem?_eq_none (by rw [List.length_append, List.length_singleton]; omega)] at found
        cases found
      · rename_i silent
        obtain ⟨⟨first, found, asks⟩, others⟩ := inductionHypothesis last
        have within := (List.getElem?_eq_some_iff.mp found).1
        refine ⟨⟨first, (List.getElem?_append_left within).trans found, asks⟩,
          fun later other behind foundLater => ?_⟩
        rcases Nat.lt_or_ge later slots.length with inside | outside
        · rw [List.getElem?_append_left inside] at foundLater
          exact others later other behind foundLater
        · obtain ⟨inAll, same⟩ := List.getElem?_eq_some_iff.mp foundLater
          rw [List.length_append, List.length_singleton] at inAll
          have atEnd : later = slots.length := by omega
          subst atEnd
          rw [List.getElem_concat_length rfl] at same
          rw [← same]
          exact Bool.eq_false_iff.mpr silent

namespace Trail

variable {answers : List Text} {trail : Trail}

/-- A name whose answer is missing has a last slot, and that has no answer. -/
theorem Tracks.exists_slot (tracks : Tracks answers trail) {name : Text}
    (unanswered : trail.names.lookup name = some .unanswered) :
    ∃ position slot, answers.length ≤ position ∧ trail.slots[position]? = some slot ∧
      slot.asks name = true ∧
      ∀ (later : Nat) (other : Slot), position < later → trail.slots[later]? = some other →
        other.asks name = false := by
  rw [tracks.lookup] at unanswered
  obtain ⟨position, last, reading⟩ := Option.map_eq_some_iff.mp unanswered
  obtain ⟨⟨slot, found, asks⟩, others⟩ := lastAsking?_eq_some last
  have missing := List.getElem?_eq_none_iff.mp (Reading.ofAnswer_eq_unanswered.mp reading)
  refine ⟨position, slot, missing, ?_, asks, fun later other behind foundLater => ?_⟩
  · rw [← Array.getElem?_toList]
    exact found
  · rw [← Array.getElem?_toList] at foundLater
    exact others later other behind foundLater

/-- A trail that waits for deciding names only. -/
def Halts (outline : Outline) (trail : Trail) : Prop :=
  ∀ name, trail.halt? = some (.pending name) → outline.Decides name

theorem Halts.halt {outline : Outline} (halts : Halts outline trail) {reason : Halt}
    (decides : ∀ name, reason = .pending name → outline.Decides name) :
    Halts outline (trail.halt reason) := by
  cases halted : trail.halted with
  | true =>
      rw [halt_of_halted halted]
      exact halts
  | false =>
      rw [halt_of_running halted]
      exact fun name waiting => decides name (Option.some.inj waiting)

theorem Halts.ask {outline : Outline} (halts : Halts outline trail) (answers : List Text)
    (iteration? : Option Iteration) (prompt : Prompt) :
    Halts outline (trail.ask answers iteration? prompt) := by
  rcases ask_cases answers iteration? trail prompt with
    ⟨_, asked⟩ | ⟨_, _, asked⟩ | ⟨_, _, asked⟩
  · rwa [asked]
  · rw [asked]
    exact halts
  · rw [asked]
    exact fun _ waiting => by cases waiting

end Trail

namespace Outline

open Trail

variable {outline : Outline} {prompts : List Prompt} {answers : List Text} {name : Text}

/-- A count waits for the bound of its loop. -/
theorem bound_of_count_pending {loop : Loop} {names : List (Text × Reading)}
    (waiting : outline.count loop names = .error (.pending name)) :
    loop.trip.bound = .name name := by
  unfold count at waiting
  split at waiting
  · cases waiting
  · cases waiting
  · rename_i bound found
    split at waiting
    · cases waiting
    · cases waiting
      exact found
    · cases waiting
    · split at waiting <;> cases waiting

/-- No action of a walk makes a trail wait for a name that does not decide. -/
theorem pairing_halts (outline : Outline) (answers : List Text) :
    outline.Pairing answers answers fun one _ => ∀ trail, Halts outline trail →
      Halts outline (one trail) where
  rest := fun _ halts => halts
  ask iteration? prompt := fun _ halts => halts.ask answers iteration? prompt
  halt := fun _ halts => halts.halt fun _ waiting => by cases waiting
  comp := fun one next trail halts => next _ (one trail halts)
  running := by
    intro one _ keeps trail halts
    dsimp only
    split
    · exact halts
    · exact keeps trail halts
  late := fun _ _ keeps trail halts => keeps _ trail halts
  counted := by
    intro loop one _ hasLoop keeps trail halts
    unfold counted
    split
    · rename_i reason missing
      refine halts.halt fun name waiting => ⟨loop, hasLoop, ?_⟩
      exact bound_of_count_pending (waiting ▸ missing)
    · exact keeps _ trail halts

/-- What it means that a plan waits for a name: the name is the bound of a loop, the last slot of
the plan that asks for it has no answer yet, and so there are more slots than answers. -/
structure WaitsFor (outline : Outline) (answers : List Text) (plan : Plan) (name : Text) : Prop where
  decides : outline.Decides name
  last : ∃ position slot, answers.length ≤ position ∧ plan.slots[position]? = some slot ∧
    slot.asks name = true ∧
    ∀ (later : Nat) (other : Slot), position < later → plan.slots[later]? = some other →
      other.asks name = false
  more : answers.length < plan.size

theorem waitsFor_of_pending (pending : (outline.plan prompts answers).halt? = some (.pending name)) :
    outline.WaitsFor answers (outline.plan prompts answers) name := by
  have tracks := (tracks_empty answers).of_reaches (reaches_trail outline prompts)
  obtain ⟨one, _, keeps, walked, _⟩ := (pairing_halts outline answers).trail prompts
  have halts : Halts outline (outline.trail prompts answers) := by
    rw [walked]
    exact keeps Trail.empty fun _ waiting => by cases waiting
  exact ⟨halts name pending, tracks.exists_slot (tracks.halt name pending),
    lt_size_of_pending pending⟩

end Outline

namespace Session

variable {analysis : Analysis} {session : Session} {name : Text}

/-- While the plan of its answers is pending a session does not leave the plan. -/
theorem Sound.stays_planned (sound : Sound analysis session)
    (pending : (analysis.plan session.answers).halt? = some (.pending name)) :
    session.phase ≠ .manual ∧ session.phase ≠ .completed ∧
      ∀ question, session.question? = some question → question.manual = false := by
  cases sound with
  | idle => exact ⟨Phase.noConfusion, Phase.noConfusion, fun _ asked => by cases asked⟩
  | awaiting answers unanswered =>
      obtain ⟨slot, _, asked⟩ := question?_of_awaiting unanswered
      refine ⟨Phase.noConfusion, Phase.noConfusion, fun question isOpen => ?_⟩
      cases asked.symm.trans isOpen
      rfl
  | manual answers openEnded _ => cases openEnded.symm.trans pending
  | completed answers complete _ => cases complete.symm.trans pending
  | ended answers openEnded _ => cases openEnded.symm.trans pending
  | cancelled plan => exact ⟨Phase.noConfusion, Phase.noConfusion, fun _ asked => by cases asked⟩

/-- A pending plan waits for the bound of a loop, whose last slot has no answer; a session with such
a plan asks no manual question and is not completed; and no walk takes one of the exits where a
nested loop is not laid out or a count is not known behind the first pass. -/
theorem asks_while_pending (analysis : Analysis) :
    (∀ answers name, (analysis.plan answers).halt? = some (.pending name) →
      analysis.outline.WaitsFor answers (analysis.plan answers) name) ∧
    (∀ calls name,
      let session := (new analysis).afterCalls calls
      (analysis.plan session.answers).halt? = some (.pending name) →
        session.phase ≠ .manual ∧ session.phase ≠ .completed ∧
          ∀ question, session.question? = some question → question.manual = false) ∧
    ∀ answers, analysis.outline.waryTrail analysis.prompts answers =
      .ok (analysis.outline.trail analysis.prompts answers) :=
  ⟨fun _ _ => Outline.waitsFor_of_pending,
    fun calls _ => (sound_afterCalls .idle calls).stays_planned,
    Outline.waryTrail_eq analysis.outline analysis.prompts⟩

/-- The program that reads `n` and then `x` in a loop counted by `n`. -/
def rowAnalysis : Analysis where
  language := .python
  source := []
  outline := Outline.rowOutline
  prompts := Outline.rowPrompts

/-- Started, the session waits for `n`, and so asks for it by the plan. -/
theorem asks_while_pending_row :
    let session := (new rowAnalysis).afterCalls [.start]
    (rowAnalysis.plan session.answers).halt? = some (.pending ['n']) ∧
      rowAnalysis.outline.WaitsFor session.answers (rowAnalysis.plan session.answers) ['n'] ∧
      session.phase ≠ .manual ∧ session.phase ≠ .completed ∧ session.question?.isSome = true ∧
      ∀ question, session.question? = some question → question.manual = false := by
  have pending : (rowAnalysis.plan ((new rowAnalysis).afterCalls [.start]).answers).halt? =
      some (.pending ['n']) := by decide +kernel
  obtain ⟨waits, stays, _⟩ := asks_while_pending rowAnalysis
  obtain ⟨noManual, noEnd, planned⟩ := stays [.start] ['n'] pending
  exact ⟨pending, waits _ _ pending, noManual, noEnd, by decide +kernel, planned⟩

end Session

end InputDemand
