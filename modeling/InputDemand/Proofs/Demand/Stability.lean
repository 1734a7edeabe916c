import InputDemand.Proofs.Demand.Trail
import InputDemand.Proofs.Demand.Walks

/-!
# Plans are stable

Two walks through one program, of which the second knows more answers, are compared step by step.
They stay level, with readings that differ only where the first still waits, until the first halts
for such a reading; from then on the first rests and the second appends.
-/

namespace InputDemand

namespace Trail

/-- Trails that differ only in names whose answer the earlier one still lacks. -/
structure Level (early late : Trail) : Prop where
  slots : early.slots = late.slots
  halt? : early.halt? = late.halt?
  names : ∀ name, early.names.lookup name = late.names.lookup name ∨
    (early.names.lookup name = some .unanswered ∧
      (late.names.lookup name).isSome = true)

/-- The later trail is level with the earlier one, or has gone on where that one waits. -/
inductive Leads (early late : Trail) : Prop
  | level : Level early late → Leads early late
  | waiting (name : Text) :
      early.halt? = some (.pending name) →
      early.slots.toList <+: late.slots.toList →
      Leads early late

theorem Level.refl (trail : Trail) : Level trail trail :=
  ⟨rfl, rfl, fun _ => Or.inl rfl⟩

theorem Level.halted {early late : Trail} (level : Level early late) :
    early.halted = late.halted := by
  simp only [Trail.halted, level.halt?]

theorem Level.halt {early late : Trail} (level : Level early late) (reason : Halt) :
    Level (early.halt reason) (late.halt reason) := by
  cases halted : early.halted with
  | true =>
      rw [halt_of_halted halted, halt_of_halted (level.halted ▸ halted)]
      exact level
  | false =>
      rw [halt_of_running halted, halt_of_running (level.halted ▸ halted)]
      exact ⟨level.slots, rfl, level.names⟩

theorem Level.lookup_isNone {early late : Trail} (level : Level early late) (name : Text) :
    (early.names.lookup name).isNone = (late.names.lookup name).isNone := by
  rcases level.names name with same | ⟨unanswered, known⟩
  · rw [same]
  · obtain ⟨reading, found⟩ := Option.isSome_iff_exists.mp known
    rw [unanswered, found]
    rfl

theorem Level.lateName? {early late : Trail} (level : Level early late)
    (loop : Loop) (segments : List Segment) :
    InputDemand.lateName? loop segments early = InputDemand.lateName? loop segments late := by
  unfold InputDemand.lateName?
  split
  · rw [level.lookup_isNone]
  · rfl

/-- Level trails agree on a count unless the earlier one waits for it. -/
theorem Level.count {early late : Trail} (level : Level early late)
    (outline : Outline) (loop : Loop) :
    outline.count loop early.names = outline.count loop late.names ∨
      ∃ name, outline.count loop early.names = .error (.pending name) := by
  unfold Outline.count
  cases loop.trip.bound with
  | literal value => exact Or.inl rfl
  | unknown expression => exact Or.inl rfl
  | name name =>
      rcases level.names name with same | ⟨unanswered, _⟩
      · left
        simp only [same]
      · right
        exact ⟨name, by simp only [unanswered]⟩

/-- A reading by a longer history is the same, unless the shorter one has no answer yet. -/
theorem ofAnswer_append (answers more : List Text) (position : Nat) :
    Reading.ofAnswer answers[position]? = Reading.ofAnswer (answers ++ more)[position]? ∨
      Reading.ofAnswer answers[position]? = .unanswered := by
  rcases Nat.lt_or_ge position answers.length with answered | missing
  · rw [List.getElem?_append_left answered]
    exact Or.inl rfl
  · rw [List.getElem?_eq_none missing]
    exact Or.inr rfl

theorem Level.ask {early late : Trail} (level : Level early late)
    (answers more : List Text) (iteration? : Option Iteration) (prompt : Prompt) :
    Level (early.ask answers iteration? prompt)
      (late.ask (answers ++ more) iteration? prompt) := by
  have sameSize : early.slots.size = late.slots.size := by rw [level.slots]
  have sameHalted : early.halted = late.halted := level.halted
  rcases ask_cases answers iteration? early prompt with
    ⟨halted, asked⟩ | ⟨running, room, asked⟩ | ⟨running, full, asked⟩
  · rw [asked, ask_of_halted (sameHalted ▸ halted)]
    exact level
  · rcases ask_cases (answers ++ more) iteration? late prompt with
      ⟨halted, _⟩ | ⟨_, _, askedLate⟩ | ⟨_, full, _⟩
    · rw [← sameHalted, running] at halted
      cases halted
    · rw [asked, askedLate]
      refine ⟨by rw [level.slots], level.halt?, fun name => ?_⟩
      simp only [lookup_namesAfter, sameSize]
      split
      · rcases ofAnswer_append answers more late.slots.size with same | unanswered
        · exact Or.inl (congrArg some same)
        · exact Or.inr ⟨congrArg some unanswered, rfl⟩
      · exact level.names name
    · omega
  · rcases ask_cases (answers ++ more) iteration? late prompt with
      ⟨halted, _⟩ | ⟨_, room, _⟩ | ⟨_, _, askedLate⟩
    · rw [← sameHalted, running] at halted
      cases halted
    · omega
    · rw [asked, askedLate]
      exact ⟨level.slots, rfl, level.names⟩

/-- Two actions of one walk, by a shorter and by a longer history, that only reach what a walk may
reach and keep the later trail in the lead. -/
structure InStep (answers more : List Text) (early late : Trail → Trail) : Prop where
  earlyReaches : ∀ trail, Reaches answers trail (early trail)
  lateReaches : ∀ trail, Reaches (answers ++ more) trail (late trail)
  leads : ∀ {first second : Trail}, Leads first second → Leads (early first) (late second)

end Trail

/-! ## The walks of a shorter and a longer history -/

namespace Trail.InStep

variable {answers more : List Text}

/-- It is enough to look at running level trails: a halted trail rests, and a later one appends. -/
theorem of_level {early late : Trail → Trail}
    (earlyReaches : ∀ trail, Reaches answers trail (early trail))
    (lateReaches : ∀ trail, Reaches (answers ++ more) trail (late trail))
    (fromLevel : ∀ first second, first.halted = false → Level first second →
      Leads (early first) (late second)) :
    InStep answers more early late where
  earlyReaches := earlyReaches
  lateReaches := lateReaches
  leads := by
    intro first second leads
    cases leads with
    | level level =>
        cases halted : first.halted with
        | false => exact fromLevel first second halted level
        | true =>
            rw [(earlyReaches first).eq_of_halted halted,
              (lateReaches second).eq_of_halted (level.halted ▸ halted)]
            exact .level level
    | waiting name waits slots =>
        have halted : first.halted = true := by simp [Trail.halted, waits]
        rw [(earlyReaches first).eq_of_halted halted]
        exact .waiting name waits (slots.trans (lateReaches second).slots_grow)

theorem id : InStep answers more (fun trail => trail) (fun trail => trail) :=
  ⟨fun _ => .refl, fun _ => .refl, fun leads => leads⟩

theorem comp {early late earlyNext lateNext : Trail → Trail}
    (next : InStep answers more earlyNext lateNext) (first : InStep answers more early late) :
    InStep answers more (fun trail => earlyNext (early trail))
      (fun trail => lateNext (late trail)) :=
  ⟨fun trail => (first.earlyReaches trail).trans (next.earlyReaches (early trail)),
    fun trail => (first.lateReaches trail).trans (next.lateReaches (late trail)),
    fun leads => next.leads (first.leads leads)⟩

theorem ask (iteration? : Option Iteration) (prompt : Prompt) :
    InStep answers more (fun trail => trail.ask answers iteration? prompt)
      (fun trail => trail.ask (answers ++ more) iteration? prompt) :=
  of_level (fun _ => .ask iteration? prompt .refl) (fun _ => .ask iteration? prompt .refl)
    fun _ _ _ level => .level (level.ask answers more iteration? prompt)

theorem halt : InStep answers more (fun trail => trail.halt .openEnded)
    (fun trail => trail.halt .openEnded) :=
  of_level (fun _ => .halt .openEnded (by simp) .refl)
    (fun _ => .halt .openEnded (by simp) .refl)
    fun _ _ _ level => .level (level.halt .openEnded)

theorem running {early late : Trail → Trail} (inStep : InStep answers more early late) :
    InStep answers more (fun trail => if trail.halted then trail else early trail)
      (fun trail => if trail.halted then trail else late trail) := by
  refine of_level (fun trail => ?_) (fun trail => ?_) fun earlier later running level => ?_
  · split
    · exact .refl
    · exact inStep.earlyReaches trail
  · split
    · exact .refl
    · exact inStep.lateReaches trail
  · have runningLater : later.halted = false := level.halted ▸ running
    simp only [running, runningLater]
    exact inStep.leads (.level level)

theorem late (loop : Loop) (segments : List Segment) {early late : Option Text → Trail → Trail}
    (goOn : ∀ name?, InStep answers more (early name?) (late name?)) :
    InStep answers more (fun trail => early (lateName? loop segments trail) trail)
      (fun trail => late (lateName? loop segments trail) trail) := by
  refine of_level (fun trail => (goOn _).earlyReaches trail)
    (fun trail => (goOn _).lateReaches trail) fun earlier later _ level => ?_
  rw [← level.lateName?]
  exact (goOn _).leads (.level level)

theorem counted (outline : Outline) (loop : Loop) {early late : Nat → Trail → Trail}
    (goOn : ∀ count, InStep answers more (early count) (late count)) :
    InStep answers more (outline.counted loop early) (outline.counted loop late) := by
  have lateReaches := reaches_counted outline loop fun count => (goOn count).lateReaches
  refine of_level (reaches_counted outline loop fun count => (goOn count).earlyReaches)
    lateReaches fun earlier later running level => ?_
  rcases level.count outline loop with same | ⟨name, waits⟩
  · unfold Outline.counted
    rw [← same]
    cases outline.count loop earlier.names with
    | error reason => exact .level (level.halt reason)
    | ok count => exact (goOn count).leads (.level level)
  · -- The earlier walk stops here; whatever the later one does, it only appends.
    have stopped : outline.counted loop early earlier = earlier.halt (.pending name) := by
      simp only [Outline.counted, waits]
    rw [stopped]
    refine .waiting name (by rw [halt_of_running running]) ?_
    rw [slots_halt, level.slots]
    exact (lateReaches later).slots_grow

end Trail.InStep

namespace Outline

open Trail

variable (outline : Outline) (prompts : List Prompt)

/-- Walks by a shorter and a longer history stay in step. -/
theorem pairing_inStep (answers more : List Text) :
    outline.Pairing answers (answers ++ more) (InStep answers more) where
  rest := .id
  ask := .ask
  halt := .halt
  comp first next := next.comp first
  running := .running
  late _ segments goOn := .late _ segments goOn
  counted _ goOn := .counted outline _ goOn

theorem leads_trail (answers more : List Text) :
    Leads (outline.trail prompts answers) (outline.trail prompts (answers ++ more)) := by
  obtain ⟨early, late, inStep, walked, walkedLate⟩ :=
    (outline.pairing_inStep answers more).trail prompts
  rw [walked, walkedLate]
  exact inStep.leads (.level (.refl empty))

/-- More answers never change a slot that is planned already. -/
theorem slots_prefix_append (answers more : List Text) :
    (outline.plan prompts answers).slots.toList <+:
      (outline.plan prompts (answers ++ more)).slots.toList := by
  cases leads_trail outline prompts answers more with
  | level level =>
      simp only [plan, level.slots]
      exact List.prefix_rfl
  | waiting name waits slots => exact slots

/-- A plan that waits for no answer is not changed by more answers. -/
theorem plan_append_of_settled {outline : Outline} {prompts : List Prompt} {answers : List Text}
    (settled : ∀ name, (outline.plan prompts answers).halt? ≠ some (.pending name))
    (more : List Text) :
    outline.plan prompts (answers ++ more) = outline.plan prompts answers := by
  cases leads_trail outline prompts answers more with
  | level level => simp only [plan, level.slots, level.halt?]
  | waiting name waits slots => exact absurd waits (settled name)

/-- A plan whose slots are all answered is not changed by more answers. -/
theorem plan_append_of_size_le {outline : Outline} {prompts : List Prompt} {answers : List Text}
    (answered : (outline.plan prompts answers).size ≤ answers.length) (more : List Text) :
    outline.plan prompts (answers ++ more) = outline.plan prompts answers :=
  plan_append_of_settled
    (fun _ pending => Nat.not_lt.mpr answered (lt_size_of_pending pending)) more

theorem size_le_size_append (answers more : List Text) :
    (outline.plan prompts answers).size ≤ (outline.plan prompts (answers ++ more)).size := by
  have longer := (slots_prefix_append outline prompts answers more).length_le
  simpa [Plan.size] using longer

/-- The first slots depend on the answers in front of them only. -/
theorem slots_take_succ (answers : List Text) (count : Nat) :
    (outline.plan prompts answers).slots.toList.take (count + 1) =
      (outline.plan prompts (answers.take count)).slots.toList.take (count + 1) := by
  rcases Nat.le_total answers.length count with short | long
  · rw [List.take_of_length_le short]
  · have longer := slots_prefix_append outline prompts (answers.take count) (answers.drop count)
    rw [List.take_append_drop] at longer
    by_cases pending : ∃ name,
        (outline.plan prompts (answers.take count)).halt? = some (.pending name)
    · obtain ⟨name, waits⟩ := pending
      have openSlot := lt_size_of_pending waits
      rw [List.length_take_of_le long] at openSlot
      obtain ⟨rest, appended⟩ := longer
      rw [← appended]
      exact List.take_append_of_le_length openSlot
    · have settled := plan_append_of_settled (not_exists.mp pending) (answers.drop count)
      rw [List.take_append_drop] at settled
      rw [settled]

/-- Answers beyond the planned slots make no difference. -/
theorem plan_take_size (answers : List Text) :
    outline.plan prompts (answers.take (outline.plan prompts answers).size) =
      outline.plan prompts answers := by
  rcases Nat.le_total answers.length (outline.plan prompts answers).size with short | long
  · rw [List.take_of_length_le short]
  · have smaller := size_le_size_append outline prompts
      (answers.take (outline.plan prompts answers).size)
      (answers.drop (outline.plan prompts answers).size)
    rw [List.take_append_drop] at smaller
    have answered : (outline.plan prompts
          (answers.take (outline.plan prompts answers).size)).size ≤
        (answers.take (outline.plan prompts answers).size).length := by
      rw [List.length_take_of_le long]
      exact smaller
    have settled := plan_append_of_size_le answered
      (answers.drop (outline.plan prompts answers).size)
    rw [List.take_append_drop] at settled
    exact settled.symm

/-- Plans are stable: a longer history keeps every planned slot, and the whole plan unless that
waits for an answer; the first `count + 1` slots depend on the first `count` answers, so that no
answer has a say in a slot up to its own; answers beyond the planned slots have no say at all. -/
theorem plan_stable :
    (∀ answers more : List Text,
      (outline.plan prompts answers).slots.toList <+:
        (outline.plan prompts (answers ++ more)).slots.toList) ∧
    (∀ answers more : List Text,
      (outline.plan prompts answers).halt? = none ∨
        (outline.plan prompts answers).halt? = some .openEnded →
      outline.plan prompts (answers ++ more) = outline.plan prompts answers) ∧
    (∀ (count : Nat) (answers others : List Text),
      answers.take count = others.take count →
      (outline.plan prompts answers).slots.toList.take (count + 1) =
        (outline.plan prompts others).slots.toList.take (count + 1)) ∧
    (∀ answers : List Text,
      outline.plan prompts answers =
        outline.plan prompts (answers.take (outline.plan prompts answers).size)) := by
  refine ⟨slots_prefix_append outline prompts, ?_, ?_, ?_⟩
  · intro answers more settled
    refine plan_append_of_settled (fun name pending => ?_) more
    rcases settled with complete | openEnded
    · rw [complete] at pending
      cases pending
    · rw [openEnded] at pending
      cases pending
  · intro count answers others agree
    rw [slots_take_succ outline prompts answers, slots_take_succ outline prompts others, agree]
  · intro answers
    exact (plan_take_size outline prompts answers).symm

end Outline

end InputDemand
