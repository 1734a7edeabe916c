import InputDemand.Proofs.Demand.Trail
import Mathlib.Data.List.Induction

/-!
# The order in which values are read

When every count is known the values of a program stand in one list: the sites in front of the main
loop, then pass by pass the sites of the loop, with the passes of the nested loop in place of its
first site, then the sites that remain.  A walk follows such a list slot by slot, and the plan cuts
it off behind the greatest number of slots.
-/

namespace InputDemand

/-- The slot of a prompt in an iteration. -/
def Prompt.slot (iteration? : Option Iteration) (prompt : Prompt) : Slot :=
  ⟨prompt, iteration?⟩

/-- Whether a slot asks for the value of a name. -/
def Slot.asks (name : Text) (slot : Slot) : Bool :=
  slot.prompt.site.target? = some name

/-- Whether a slot of an iteration asks for the value of a name. -/
def Slot.asksIn (iteration : Iteration) (name : Text) (slot : Slot) : Bool :=
  slot.iteration? = some iteration && slot.asks name

/-- The position of the last slot that asks for the value of a name. -/
def lastAsking? (name : Text) : List Slot → Option Nat
  | [] => none
  | slot :: slots =>
      match lastAsking? name slots with
      | some position => some (position + 1)
      | none => if slot.asks name then some 0 else none

/-- The integer that is answered to the slot at a position. -/
def integerAt? (answers : List Text) (position : Nat) : Option Int :=
  answers[position]?.bind fun answer => Text.signed? (Text.trim answer)

/-- The slots of one pass of the nested loop. -/
def nestedPass (nested : List Prompt) (outer inner : Nat) : List Slot :=
  nested.map (Prompt.slot (some ⟨outer, some inner⟩))

/-- The slots of one pass of the main loop, whose nested loop makes `repeats` passes where the
first nested site stands. -/
def mainPass (isNested : Prompt → Bool) (inside : List Prompt) (repeats outer : Nat) :
    List Slot :=
  let own := Prompt.slot (some ⟨outer, none⟩)
  (inside.takeWhile fun prompt => !isNested prompt).map own ++
    (List.range repeats).flatMap (nestedPass (inside.filter isNested) outer) ++
      ((inside.dropWhile fun prompt => !isNested prompt).filter
        fun prompt => !isNested prompt).map own

namespace Outline

variable (outline : Outline)

/-- Whether a prompt's site starts in the body of the nested loop. -/
def isNested (prompt : Prompt) : Bool :=
  inBody outline.nestedLoop? prompt.site.start

/-- The slots in front of the main loop's body. -/
def slotsBefore (body : Span) (prompts : List Prompt) : List Slot :=
  (prompts.filter fun prompt =>
    !prompt.site.inLoop && decide (prompt.site.start < body.start)).map (Prompt.slot none)

/-- The slots of a pass of the main loop. -/
def slotsOfPass (prompts : List Prompt) (repeats : Nat → Nat) (outer : Nat) : List Slot :=
  mainPass outline.isNested (prompts.filter fun prompt => prompt.site.inLoop)
    (repeats outer) outer

/-- The slots that are neither in the main loop nor in front of its body. -/
def slotsBehind (body : Span) (prompts : List Prompt) : List Slot :=
  (prompts.filter fun prompt =>
    !prompt.site.inLoop && decide (body.start ≤ prompt.site.start)).map (Prompt.slot none)

/-- The slots up to a pass of the main loop. -/
def slotsUpTo (body : Span) (prompts : List Prompt) (repeats : Nat → Nat) (outer : Nat) :
    List Slot :=
  slotsBefore body prompts ++
    (List.range outer).flatMap (outline.slotsOfPass prompts repeats)

/-- All slots in the order in which the program reads them, where the main loop makes `passes`
passes and the nested one `repeats outer` in pass `outer`. -/
def slotsInOrder (body : Span) (prompts : List Prompt) (passes : Nat) (repeats : Nat → Nat) :
    List Slot :=
  outline.slotsUpTo body prompts repeats passes ++ slotsBehind body prompts

/-- The slots in front of the nested loop in a pass of the main loop. -/
def slotsUpToNested (body : Span) (prompts : List Prompt) (repeats : Nat → Nat)
    (outer : Nat) : List Slot :=
  outline.slotsUpTo body prompts repeats outer ++
    ((prompts.filter fun prompt => prompt.site.inLoop).takeWhile
      fun prompt => !outline.isNested prompt).map (Prompt.slot (some ⟨outer, none⟩))

/-- How often a loop runs that is entered behind the slots `earlier` and whose first pass has the
slots `pass`, those directly in its body in iteration `own`.  Its name has the integer answered to
the latest earlier slot that asks for it; or, if there is none, the one answered to the first slot
directly in the body that asks for it; or else the number assigned in front of the loop. -/
def passCount? (answers : List Text) (loop : Loop) (own : Iteration)
    (earlier pass : List Slot) : Option Nat :=
  match loop.trip.bound with
  | .literal value => some (max (loop.trip.iterations value) loop.fewest)
  | .unknown _ => none
  | .name name =>
      match lastAsking? name earlier with
      | some position =>
          (integerAt? answers position).map fun value =>
            max (loop.trip.iterations value) loop.fewest
      | none =>
          match pass.findIdx? (Slot.asksIn own name) with
          | some place =>
              (integerAt? answers (earlier.length + place)).map fun value =>
                max (loop.trip.iterations value) 1
          | none =>
              (outline.valueBefore? name loop.header.start).map fun value =>
                max (loop.trip.iterations value) loop.fewest

/-- Every loop with sites knows its count when it is entered. -/
structure CountsKnown (answers : List Text) (mainLoop : Loop) (body : Span)
    (prompts : List Prompt) (passes : Nat) (repeats : Nat → Nat) : Prop where
  main : (∃ prompt ∈ prompts, prompt.site.inLoop = true) →
    outline.passCount? answers mainLoop ⟨0, none⟩ (slotsBefore body prompts)
      (outline.slotsOfPass prompts repeats 0) = some passes
  nested : ∀ nested, outline.nestedLoop? = some nested →
    (∃ prompt ∈ prompts, prompt.site.inLoop = true ∧ outline.isNested prompt = true) →
    ∀ outer, outer < passes →
      outline.passCount? answers nested ⟨outer, some 0⟩
        (outline.slotsUpToNested body prompts repeats outer)
        (nestedPass ((prompts.filter fun prompt => prompt.site.inLoop).filter
          outline.isNested) outer 0) = some (repeats outer)

end Outline

/-- The plan lists these slots, cut off behind their greatest number; it is complete unless it had
to be cut off, and then open-ended. -/
def Plan.Lists (plan : Plan) (slots : List Slot) : Prop :=
  plan.slots.toList = slots.take maxSlots ∧
    plan.halt? = if slots.length ≤ maxSlots then none else some .openEnded

/-! ## Following a list of slots -/

namespace Trail

variable (answers : List Text)

/-- The trail that asks for the slots of a list, one after the other. -/
def follow (slots : List Slot) : Trail :=
  slots.foldl (fun trail slot => trail.ask answers slot.iteration? slot.prompt) empty

theorem follow_concat (slots : List Slot) (slot : Slot) :
    follow answers (slots ++ [slot]) =
      (follow answers slots).ask answers slot.iteration? slot.prompt := by
  simp [follow]

theorem follow_append_map (slots : List Slot) (iteration? : Option Iteration)
    (prompts : List Prompt) :
    follow answers (slots ++ prompts.map (Prompt.slot iteration?)) =
      prompts.foldl (ask answers iteration?) (follow answers slots) := by
  simp [follow, List.foldl_map, Prompt.slot]

theorem follow_append_of_halted {slots : List Slot}
    (halted : (follow answers slots).halted = true) (more : List Slot) :
    follow answers (slots ++ more) = follow answers slots := by
  have reached : Reaches answers (follow answers slots) (follow answers (slots ++ more)) := by
    unfold follow
    rw [List.foldl_append]
    exact reaches_foldl (fun trail slot => .ask slot.iteration? slot.prompt .refl) more _
  exact reached.eq_of_halted halted

/-- Following a list fills the slots up to their greatest number and halts behind it. -/
theorem follow_slots (slots : List Slot) :
    (follow answers slots).slots.toList = slots.take maxSlots ∧
      (follow answers slots).halt? =
        if slots.length ≤ maxSlots then none else some .openEnded := by
  induction slots using List.reverseRecOn with
  | nil => exact ⟨rfl, rfl⟩
  | append_singleton slots slot inductionHypothesis =>
      obtain ⟨listed, halt⟩ := inductionHypothesis
      have size : (follow answers slots).slots.size = min maxSlots slots.length := by
        rw [← Array.length_toList, listed, List.length_take]
      rw [follow_concat, List.length_append, List.length_singleton]
      rcases ask_cases answers slot.iteration? (follow answers slots) slot.prompt with
        ⟨halted, asked⟩ | ⟨running, room, asked⟩ | ⟨running, full, asked⟩
      · have long : ¬ slots.length ≤ maxSlots := by
          intro short
          rw [if_pos short] at halt
          simp [Trail.halted, halt] at halted
        rw [asked, listed, halt, if_neg long, if_neg (by omega)]
        exact ⟨(List.take_append_of_le_length (by omega)).symm, rfl⟩
      · have short : slots.length < maxSlots := by omega
        rw [asked]
        refine ⟨?_, ?_⟩
        · rw [Array.toList_push, listed, List.take_of_length_le (by omega),
            List.take_of_length_le (by simp; omega)]
        · rw [halt, if_pos (by omega), if_pos (by omega)]
      · have long : slots.length = maxSlots := by
          by_cases short : slots.length ≤ maxSlots
          · omega
          · rw [if_neg short] at halt
            simp [Trail.halted, halt] at running
        rw [asked, if_neg (by omega)]
        refine ⟨?_, rfl⟩
        rw [listed, List.take_append_of_le_length (by omega)]

theorem lastAsking?_concat (name : Text) (slots : List Slot) (slot : Slot) :
    lastAsking? name (slots ++ [slot]) =
      if slot.asks name then some slots.length else lastAsking? name slots := by
  induction slots with
  | nil => simp [lastAsking?]
  | cons first slots inductionHypothesis =>
      simp only [List.cons_append, lastAsking?, inductionHypothesis]
      by_cases asks : slot.asks name = true
      · simp [asks]
      · simp [asks]

/-- A trail that knows of every name what was answered to the last slot that asks for it, and that
waits only for names whose answer is missing. -/
structure Tracks (answers : List Text) (trail : Trail) : Prop where
  lookup : ∀ name, trail.names.lookup name =
    (lastAsking? name trail.slots.toList).map fun position => Reading.ofAnswer answers[position]?
  halt : ∀ name, trail.halt? = some (.pending name) →
    trail.names.lookup name = some .unanswered

variable {answers} {trail : Trail}

theorem tracks_empty (answers : List Text) : Tracks answers empty :=
  ⟨fun _ => rfl, fun _ waiting => by cases waiting⟩

theorem Tracks.ask (tracks : Tracks answers trail) (iteration? : Option Iteration)
    (prompt : Prompt) : Tracks answers (trail.ask answers iteration? prompt) := by
  rcases ask_cases answers iteration? trail prompt with
    ⟨_, asked⟩ | ⟨running, _, asked⟩ | ⟨_, _, asked⟩
  · rw [asked]
    exact tracks
  · rw [asked]
    refine ⟨fun name => ?_, fun name waiting => ?_⟩
    · rw [Array.toList_push, lastAsking?_concat, lookup_namesAfter, tracks.lookup,
        Array.length_toList]
      simp only [Slot.asks, decide_eq_true_eq]
      split <;> rfl
    · have stopped : trail.halted = true := Option.isSome_iff_exists.mpr ⟨_, waiting⟩
      rw [stopped] at running
      cases running
  · rw [asked]
    exact ⟨tracks.lookup, fun name waiting => by cases waiting⟩

theorem Tracks.of_reaches {start : Trail} (tracks : Tracks answers start)
    (reached : Reaches answers start trail) : Tracks answers trail := by
  induction reached with
  | refl => exact tracks
  | ask iteration? prompt _ inductionHypothesis => exact inductionHypothesis.ask iteration? prompt
  | @halt reason trail known _ inductionHypothesis =>
      cases halted : trail.halted with
      | true =>
          rw [halt_of_halted halted]
          exact inductionHypothesis
      | false =>
          rw [halt_of_running halted]
          exact ⟨inductionHypothesis.lookup,
            fun name waiting => known name (Option.some.inj waiting)⟩

/-- A running trail knows of every name what was answered to the last slot that asks for it. -/
theorem lookup_follow (answers : List Text) {slots : List Slot}
    (running : (follow answers slots).halted = false) (name : Text) :
    (follow answers slots).names.lookup name =
      (lastAsking? name slots).map fun position => Reading.ofAnswer answers[position]? := by
  have followed : Reaches answers empty (follow answers slots) :=
    reaches_foldl (fun trail slot => .ask slot.iteration? slot.prompt .refl) slots empty
  obtain ⟨listed, halt⟩ := follow_slots answers slots
  have short : slots.length ≤ maxSlots := by
    by_contra long
    rw [if_neg long] at halt
    simp [Trail.halted, halt] at running
  rw [((tracks_empty answers).of_reaches followed).lookup, listed, List.take_of_length_le short]

end Trail

end InputDemand
