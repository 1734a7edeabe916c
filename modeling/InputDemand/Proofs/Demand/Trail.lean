import InputDemand.Demand.Plan

/-!
# How a trail grows

Whatever a walk does to a trail is made of two steps: it asks for a value, or it halts.  A halt that
waits for a name waits for one that has been asked for and not been answered.  This is said once, by
the relation `Reaches`, and shown of every action of a walk; that slots are only appended, that a
halted trail rests, and that a waiting trail has a slot without an answer follow by induction on the
relation.
-/

namespace InputDemand

namespace Trail

/-- The trails that a walk may make of a trail. -/
inductive Reaches (answers : List Text) (start : Trail) : Trail → Prop
  | refl : Reaches answers start start
  | ask (iteration? : Option Iteration) (prompt : Prompt) {trail : Trail} :
      Reaches answers start trail →
      Reaches answers start (trail.ask answers iteration? prompt)
  | halt (reason : Halt) {trail : Trail} :
      (∀ name, reason = .pending name →
        trail.names.lookup name = some .unanswered) →
      Reaches answers start trail →
      Reaches answers start (trail.halt reason)

/-! ## Single steps -/

theorem halt_of_halted {trail : Trail} (halted : trail.halted = true) (reason : Halt) :
    trail.halt reason = trail := by
  simp [halt, halted]

theorem halt_of_running {trail : Trail} (running : trail.halted = false) (reason : Halt) :
    trail.halt reason = { trail with halt? := some reason } := by
  simp [halt, running]

@[simp]
theorem slots_halt (trail : Trail) (reason : Halt) :
    (trail.halt reason).slots = trail.slots := by
  unfold halt
  split <;> rfl

theorem ask_of_halted {trail : Trail} (halted : trail.halted = true)
    (answers : List Text) (iteration? : Option Iteration) (prompt : Prompt) :
    trail.ask answers iteration? prompt = trail := by
  simp [ask, halted]

/-- A question leaves a halted trail, adds a slot to one with room, and halts a full one. -/
theorem ask_cases
    (answers : List Text) (iteration? : Option Iteration) (trail : Trail) (prompt : Prompt) :
    (trail.halted = true ∧ trail.ask answers iteration? prompt = trail) ∨
      (trail.halted = false ∧ trail.slots.size < maxSlots ∧
        trail.ask answers iteration? prompt =
          { trail with
            slots := trail.slots.push ⟨prompt, iteration?⟩
            names := trail.namesAfter answers prompt }) ∨
      (trail.halted = false ∧ maxSlots ≤ trail.slots.size ∧
        trail.ask answers iteration? prompt = { trail with halt? := some .openEnded }) := by
  cases halted : trail.halted with
  | true =>
      exact Or.inl ⟨rfl, ask_of_halted halted answers iteration? prompt⟩
  | false =>
      rcases Nat.lt_or_ge trail.slots.size maxSlots with room | full
      · exact Or.inr (Or.inl ⟨rfl, room, by simp [ask, halted, Nat.not_le.mpr room]⟩)
      · exact Or.inr (Or.inr ⟨rfl, full, by simp [ask, halted, full, halt_of_running]⟩)

/-- Behind a question its own name has a new reading and the others keep theirs. -/
theorem lookup_namesAfter
    (answers : List Text) (trail : Trail) (prompt : Prompt) (name : Text) :
    (trail.namesAfter answers prompt).lookup name =
      if prompt.site.target? = some name then
        some (Reading.ofAnswer answers[trail.slots.size]?)
      else trail.names.lookup name := by
  unfold namesAfter
  cases target : prompt.site.target? with
  | none => simp
  | some asked =>
      by_cases same : name = asked
      · subst same
        simp
      · have different : (name == asked) = false := by simpa using same
        simp [List.lookup_cons, different, Ne.symm same]

end Trail

theorem Reading.ofAnswer_eq_unanswered {answer? : Option Text} :
    ofAnswer answer? = unanswered ↔ answer? = none := by
  cases answer? with
  | none => simp [ofAnswer]
  | some answer =>
      cases number : Text.signed? (Text.trim answer) <;>
        simp [ofAnswer, number]

/-- A count waits only for a name that is asked and not answered. -/
theorem Outline.count_eq_pending {outline : Outline} {loop : Loop}
    {names : List (Text × Reading)} {name : Text}
    (waiting : outline.count loop names = .error (.pending name)) :
    names.lookup name = some .unanswered := by
  unfold count at waiting
  split at waiting
  · cases waiting
  · cases waiting
  · split at waiting
    · cases waiting
    · cases waiting
      assumption
    · cases waiting
    · split at waiting <;> cases waiting

namespace Trail

/-! ## What a walk keeps -/

namespace Reaches

variable {answers : List Text} {start middle trail : Trail}

theorem trans (first : Reaches answers start middle)
    (second : Reaches answers middle trail) :
    Reaches answers start trail := by
  induction second with
  | refl => exact first
  | ask iteration? prompt _ inductionHypothesis =>
      exact .ask iteration? prompt inductionHypothesis
  | halt reason known _ inductionHypothesis =>
      exact .halt reason known inductionHypothesis

theorem slots_grow (reached : Reaches answers start trail) :
    start.slots.toList <+: trail.slots.toList := by
  induction reached with
  | refl => exact List.prefix_rfl
  | @ask iteration? prompt trail _ inductionHypothesis =>
      refine inductionHypothesis.trans ?_
      rcases ask_cases answers iteration? trail prompt with
        ⟨_, asked⟩ | ⟨_, _, asked⟩ | ⟨_, _, asked⟩
      · rewrite [asked]
        exact List.prefix_rfl
      · rw [asked, Array.toList_push]
        exact List.prefix_append _ _
      · rewrite [asked]
        exact List.prefix_rfl
  | halt reason _ _ inductionHypothesis =>
      rw [slots_halt]
      exact inductionHypothesis

theorem eq_of_halted (reached : Reaches answers start trail)
    (halted : start.halted = true) :
    trail = start := by
  induction reached with
  | refl => rfl
  | ask iteration? prompt _ inductionHypothesis =>
      subst inductionHypothesis
      exact ask_of_halted halted answers iteration? prompt
  | halt reason _ _ inductionHypothesis =>
      subst inductionHypothesis
      exact halt_of_halted halted reason

end Reaches

/-- What waits for an answer has a slot without one: a name that is asked but not answered, and a
trail that is halted for such a name. -/
structure Awaits (answers : List Text) (trail : Trail) : Prop where
  names : ∀ name, trail.names.lookup name = some .unanswered →
    answers.length < trail.slots.size
  halt : ∀ name, trail.halt? = some (.pending name) →
    answers.length < trail.slots.size

theorem awaits_empty (answers : List Text) : Awaits answers empty :=
  ⟨by simp [empty], by simp [empty]⟩

theorem Awaits.ask {answers : List Text} {trail : Trail}
    (awaits : Awaits answers trail) (iteration? : Option Iteration) (prompt : Prompt) :
    Awaits answers (trail.ask answers iteration? prompt) := by
  rcases ask_cases answers iteration? trail prompt with
    ⟨_, asked⟩ | ⟨_, _, asked⟩ | ⟨_, _, asked⟩
  · rw [asked]
    exact awaits
  · rw [asked]
    constructor
    · intro name waiting
      rw [Array.size_push]
      simp only [lookup_namesAfter] at waiting
      split at waiting
      · have missing : answers[trail.slots.size]? = none :=
          Reading.ofAnswer_eq_unanswered.mp (Option.some.inj waiting)
        have := List.getElem?_eq_none_iff.mp missing
        omega
      · have := awaits.names name waiting
        omega
    · intro name waiting
      rw [Array.size_push]
      have := awaits.halt name waiting
      omega
  · rw [asked]
    exact ⟨awaits.names, by simp⟩

theorem Awaits.of_reaches {answers : List Text} {start trail : Trail}
    (awaits : Awaits answers start) (reached : Reaches answers start trail) :
    Awaits answers trail := by
  induction reached with
  | refl => exact awaits
  | ask iteration? prompt _ inductionHypothesis =>
      exact inductionHypothesis.ask iteration? prompt
  | @halt reason trail known _ inductionHypothesis =>
      cases halted : trail.halted with
      | true =>
          rw [halt_of_halted halted]
          exact inductionHypothesis
      | false =>
          rw [halt_of_running halted]
          refine ⟨inductionHypothesis.names, fun name waiting => ?_⟩
          exact inductionHypothesis.names name (known name (Option.some.inj waiting))

end Trail

/-! ## Every action of a walk -/

section Actions

open Trail

variable {answers : List Text}

theorem reaches_foldl {Item : Type} {action : Trail → Item → Trail}
    (step : ∀ trail item, Reaches answers trail (action trail item))
    (items : List Item) (trail : Trail) :
    Reaches answers trail (items.foldl action trail) := by
  induction items generalizing trail with
  | nil => exact .refl
  | cons item items inductionHypothesis =>
      exact (step trail item).trans (inductionHypothesis (action trail item))

theorem reaches_passes {pass : Nat → Trail → Trail}
    (step : ∀ index trail, Reaches answers trail (pass index trail))
    (count first : Nat) (trail : Trail) :
    Reaches answers trail (passes pass count first trail) := by
  induction count generalizing first trail with
  | zero => exact .refl
  | succ count inductionHypothesis =>
      unfold passes
      split
      · exact .refl
      · exact (step first trail).trans (inductionHypothesis (first + 1) (pass first trail))

theorem reaches_counted (outline : Outline) (loop : Loop)
    {goOn : Nat → Trail → Trail}
    (step : ∀ count trail, Reaches answers trail (goOn count trail)) (trail : Trail) :
    Reaches answers trail (outline.counted loop goOn trail) := by
  unfold Outline.counted
  split
  · rename_i reason missing
    refine .halt reason (fun name waiting => ?_) .refl
    exact Outline.count_eq_pending (waiting ▸ missing)
  · exact step _ trail

theorem reaches_runLoop (outline : Outline) (loop : Loop) (segments : List Segment)
    {run : Nat → Trail → Segment → Trail}
    (step : ∀ index trail segment, Reaches answers trail (run index trail segment))
    (trail : Trail) :
    Reaches answers trail (runLoop outline loop segments run trail) := by
  have pass : ∀ (parts : List Segment) (index : Nat) (trail : Trail),
      Reaches answers trail (parts.foldl (run index) trail) :=
    fun parts index trail => reaches_foldl (step index) parts trail
  unfold runLoop
  split
  · exact .refl
  · split
    · exact reaches_counted outline loop
        (fun count trail => reaches_passes (pass segments) (max count loop.fewest) 0 trail) trail
    · refine (pass _ 0 trail).trans (reaches_counted outline loop (fun count read => ?_) _)
      exact (pass _ 0 read).trans (reaches_passes (pass segments) (count - 1) 1 _)

theorem reaches_runNested (outline : Outline) (outer : Nat) (loop : Loop)
    (prompts : List Prompt) (trail : Trail) :
    Reaches answers trail (runNested outline answers outer loop prompts trail) := by
  unfold runNested
  split
  · exact .halt .openEnded (by simp) .refl
  · refine reaches_runLoop outline loop _ (fun inner trail segment => ?_) trail
    cases segment with
    | ask prompt => exact .ask _ prompt .refl
    | nested loop prompts => exact .refl

theorem reaches_runSegment (outline : Outline) (outer : Nat) (trail : Trail)
    (segment : Segment) :
    Reaches answers trail (runSegment outline answers outer trail segment) := by
  cases segment with
  | ask prompt => exact .ask _ prompt .refl
  | nested loop prompts => exact reaches_runNested outline outer loop prompts trail

theorem reaches_straightTrail (prompts : List Prompt) (trail : Trail) :
    Reaches answers trail (Outline.straightTrail answers prompts trail) :=
  reaches_foldl (fun _ prompt => .ask none prompt .refl) prompts trail

theorem reaches_trail (outline : Outline) (prompts : List Prompt) :
    Reaches answers empty (outline.trail prompts answers) := by
  unfold Outline.trail
  split
  · exact reaches_straightTrail prompts empty
  · split
    · unfold Outline.cutTrail
      dsimp only
      split
      · exact .halt .openEnded (by simp) (reaches_straightTrail _ empty)
      · exact reaches_straightTrail _ empty
    · unfold Outline.loopTrail
      exact ((reaches_straightTrail _ empty).trans
        (reaches_runLoop outline _ _ (reaches_runSegment outline) _)).trans
          (reaches_straightTrail _ _)

end Actions

namespace Outline

/-- A plan that waits for a name lists a value that is not answered yet. -/
theorem lt_size_of_pending {outline : Outline} {prompts : List Prompt}
    {answers : List Text} {name : Text}
    (pending : (outline.plan prompts answers).halt? = some (.pending name)) :
    answers.length < (outline.plan prompts answers).size :=
  ((Trail.awaits_empty answers).of_reaches (reaches_trail outline prompts)).halt name pending

end Outline

end InputDemand
