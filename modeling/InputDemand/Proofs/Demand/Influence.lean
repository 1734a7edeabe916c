import InputDemand.Proofs.Demand.Trail
import InputDemand.Proofs.Demand.Walks

/-!
# What answers have a say

Of all answers only those to the bounds of the two loops have a say in a plan, and of these only the
integers that they write.  Two walks by histories that agree on them stay alike: they ask the same
questions, know the same names, and differ in readings that no count looks up.
-/

namespace InputDemand

/-- Whether a name is the bound of the main loop or of the nested one. -/
def Outline.Decides (outline : Outline) (name : Text) : Prop :=
  ∃ loop, outline.HasLoop loop ∧ loop.trip.bound = .name name

/-- Two histories that answer every slot for a deciding name by the same integer, or neither by
one. -/
def Outline.AgreeOn (outline : Outline) (answers others : List Text) (slots : List Slot) : Prop :=
  ∀ (index : Nat) (slot : Slot) (name : Text), slots[index]? = some slot →
    slot.prompt.site.target? = some name →
    outline.Decides name → Reading.ofAnswer answers[index]? = Reading.ofAnswer others[index]?

namespace Trail

variable {outline : Outline} {answers others : List Text} {first second : Trail}

/-- Trails that have asked the same and know the same names, the deciding ones by the same
readings. -/
structure Alike (outline : Outline) (first second : Trail) : Prop where
  slots : first.slots = second.slots
  halt? : first.halt? = second.halt?
  known : ∀ name, (first.names.lookup name).isNone = (second.names.lookup name).isNone
  deciding : ∀ name, outline.Decides name → first.names.lookup name = second.names.lookup name

namespace Alike

theorem refl (trail : Trail) : Alike outline trail trail :=
  ⟨rfl, rfl, fun _ => rfl, fun _ _ => rfl⟩

theorem halted (alike : Alike outline first second) : first.halted = second.halted := by
  simp only [Trail.halted, alike.halt?]

theorem halt (alike : Alike outline first second) (reason : Halt) :
    Alike outline (first.halt reason) (second.halt reason) := by
  cases halted : first.halted with
  | true =>
      rw [halt_of_halted halted, halt_of_halted (alike.halted ▸ halted)]
      exact alike
  | false =>
      rw [halt_of_running halted, halt_of_running (alike.halted ▸ halted)]
      exact ⟨alike.slots, rfl, alike.known, alike.deciding⟩

theorem ask (alike : Alike outline first second) (iteration? : Option Iteration) (prompt : Prompt)
    (agree : outline.AgreeOn answers others (first.ask answers iteration? prompt).slots.toList) :
    Alike outline (first.ask answers iteration? prompt) (second.ask others iteration? prompt) := by
  have size : first.slots.size = second.slots.size := congrArg Array.size alike.slots
  rcases ask_cases answers iteration? first prompt with
    ⟨halted, asked⟩ | ⟨running, room, asked⟩ | ⟨running, full, asked⟩
  · rw [asked, ask_of_halted (alike.halted ▸ halted)]
    exact alike
  · have askedOther : second.ask others iteration? prompt =
        { second with
          slots := second.slots.push ⟨prompt, iteration?⟩
          names := second.namesAfter others prompt } := by
      simp [Trail.ask, ← alike.halted, running, Nat.not_le.mpr (size ▸ room)]
    rw [asked] at agree ⊢
    rw [askedOther]
    refine ⟨by rw [alike.slots], alike.halt?, fun name => ?_, fun name decides => ?_⟩
    · simp only [lookup_namesAfter]
      split
      · rfl
      · exact alike.known name
    · simp only [lookup_namesAfter]
      split
      · rename_i target
        have asks : (first.slots.push ⟨prompt, iteration?⟩).toList[first.slots.size]? =
            some ⟨prompt, iteration?⟩ := by simp
        rw [agree first.slots.size _ name asks target decides, size]
      · exact alike.deciding name decides
  · have askedOther : second.ask others iteration? prompt =
        { second with halt? := some .openEnded } := by
      simp [Trail.ask, ← alike.halted, running, size ▸ full,
        halt_of_running (alike.halted ▸ running)]
    rw [asked, askedOther]
    exact ⟨alike.slots, rfl, alike.known, alike.deciding⟩

theorem count (alike : Alike outline first second) {loop : Loop}
    (hasLoop : outline.HasLoop loop) :
    outline.count loop first.names = outline.count loop second.names := by
  unfold Outline.count
  cases bound : loop.trip.bound with
  | literal value => rfl
  | unknown expression => rfl
  | name name => simp only [alike.deciding name ⟨loop, hasLoop, bound⟩]

theorem lateName? (alike : Alike outline first second) (loop : Loop) (segments : List Segment) :
    InputDemand.lateName? loop segments first = InputDemand.lateName? loop segments second := by
  unfold InputDemand.lateName?
  split
  · rw [alike.known]
  · rfl

end Alike

/-- Actions that keep trails alike if the histories agree on what the first of them has asked. -/
structure KeepsAlike (outline : Outline) (answers others : List Text)
    (one other : Trail → Trail) : Prop where
  reaches : ∀ trail, Reaches answers trail (one trail)
  alike : ∀ {first second : Trail}, Alike outline first second →
    outline.AgreeOn answers others (one first).slots.toList →
    Alike outline (one first) (other second)

end Trail

namespace Outline

open Trail

variable {outline : Outline} {answers others : List Text}

theorem AgreeOn.of_prefix {earlier slots : List Slot}
    (agree : outline.AgreeOn answers others slots) (before : earlier <+: slots) :
    outline.AgreeOn answers others earlier := by
  intro index slot name asked target decides
  obtain ⟨more, rfl⟩ := before
  obtain ⟨within, _⟩ := List.getElem?_eq_some_iff.mp asked
  exact agree index slot name ((List.getElem?_append_left within).trans asked) target decides

theorem pairing_keepsAlike (outline : Outline) (answers others : List Text) :
    outline.Pairing answers others (KeepsAlike outline answers others) where
  rest := ⟨fun _ => .refl, fun alike _ => alike⟩
  ask iteration? prompt :=
    ⟨fun _ => .ask iteration? prompt .refl, fun alike agree => alike.ask iteration? prompt agree⟩
  halt := ⟨fun _ => .halt .openEnded (by simp) .refl, fun alike _ => alike.halt .openEnded⟩
  comp {one _ next _} keeps keepsNext := by
    refine ⟨fun trail => (keeps.reaches trail).trans (keepsNext.reaches _),
      fun {first second} alike agree => ?_⟩
    -- Slots only grow, so the histories agree on those behind the first action.
    have before := (keepsNext.reaches (one first)).slots_grow
    exact keepsNext.alike (keeps.alike alike (agree.of_prefix before)) agree
  running keeps := by
    constructor
    · intro trail
      split
      · exact .refl
      · exact keeps.reaches trail
    · intro first second alike agree
      rw [← alike.halted]
      split
      · exact alike
      · rename_i running
        rw [if_neg running] at agree
        exact keeps.alike alike agree
  late hasLoop segments keeps := by
    refine ⟨fun trail => (keeps _).reaches trail, fun alike agree => ?_⟩
    rw [← alike.lateName?]
    exact (keeps _).alike alike agree
  counted {loop _ _} hasLoop keeps := by
    refine ⟨reaches_counted outline loop fun count => (keeps count).reaches,
      fun {first second} alike agree => ?_⟩
    unfold Outline.counted at agree ⊢
    rw [← alike.count hasLoop]
    cases counted : outline.count loop first.names with
    | error reason => exact alike.halt reason
    | ok count =>
        rw [counted] at agree
        exact (keeps count).alike alike agree

/-- Whether two histories answer every slot of the plan of the first that asks for the bound of a
loop by the same integer, or neither by one. -/
def SameIntegers (outline : Outline) (prompts : List Prompt) (answers others : List Text) : Prop :=
  ∀ (index : Nat) (slot : Slot) (name answer other : Text),
    (outline.plan prompts answers).slots[index]? = some slot →
    slot.prompt.site.target? = some name → outline.Decides name →
    answers[index]? = some answer → others[index]? = some other →
    Text.signed? (Text.trim answer) = Text.signed? (Text.trim other)

/-- Histories of one length lead to one plan if, wherever a slot of the plan asks for the bound of a
loop, their answers write the same integer or none: no other answer has a say, and of those that
have only the integer counts, not its spelling. -/
theorem plan_eq_of_sameIntegers (outline : Outline) (prompts : List Prompt)
    {answers others : List Text} (sameLength : answers.length = others.length)
    (sameIntegers : outline.SameIntegers prompts answers others) :
    outline.plan prompts answers = outline.plan prompts others := by
  have agree : outline.AgreeOn answers others (outline.trail prompts answers).slots.toList := by
    intro index slot name asked target decides
    rw [Array.getElem?_toList] at asked
    rcases Nat.lt_or_ge index answers.length with answered | missing
    · have answer := List.getElem?_eq_getElem answered
      have other := List.getElem?_eq_getElem (sameLength ▸ answered)
      have same := sameIntegers index slot name _ _ asked target decides answer other
      rw [answer, other]
      simp only [Reading.ofAnswer, same]
    · rw [List.getElem?_eq_none missing, List.getElem?_eq_none (sameLength ▸ missing)]
  obtain ⟨one, other, keeps, walked, walkedOther⟩ :=
    (pairing_keepsAlike outline answers others).trail prompts
  rw [walked] at agree
  have alike := keeps.alike (.refl Trail.empty) agree
  simp only [plan, walked, walkedOther, alike.slots, alike.halt?]

/-- A loop counted by `n`. -/
def rowOutline : Outline where
  mainLoop? := some ⟨.counter, ⟨.name ['n'], 0, 1⟩, .ascending, none, none, ⟨2, 10⟩, some ⟨10, 20⟩⟩
  nestedLoop? := none
  sites := []
  bindings := []

/-- Reads `n`, then `x` in the loop. -/
def rowPrompts : List Prompt :=
  [⟨['n'], ⟨⟨⟨0, 1⟩, some ['n'], none⟩, false, false, none⟩, true⟩,
    ⟨['x'], ⟨⟨⟨12, 13⟩, some ['x'], none⟩, true, false, none⟩, true⟩]

/-- The spelling of the bound makes no difference, nor does any answer to `x`. -/
theorem plan_row_eq :
    [['2'], ['7'], ['a']].length = [[' ', '+', '0', '2'], ['b'], []].length ∧
      rowOutline.SameIntegers rowPrompts [['2'], ['7'], ['a']] [[' ', '+', '0', '2'], ['b'], []] ∧
      rowOutline.plan rowPrompts [['2'], ['7'], ['a']] =
        rowOutline.plan rowPrompts [[' ', '+', '0', '2'], ['b'], []] := by
  have sameIntegers : rowOutline.SameIntegers rowPrompts [['2'], ['7'], ['a']]
      [[' ', '+', '0', '2'], ['b'], []] := by
    intro index slot name answer other asked target decides answered answeredOther
    match index with
    | 0 =>
        cases answered
        cases answeredOther
        decide
    | 1 | 2 =>
        have asksX : slot.prompt.site.target? = some ['x'] := by
          cases asked
          rfl
        rw [asksX] at target
        cases target
        obtain ⟨loop, found | found, bound⟩ := decides
        · cases found
          cases bound
        · cases found
    | index + 3 => cases answered
  exact ⟨rfl, sameIntegers, plan_eq_of_sameIntegers rowOutline rowPrompts rfl sameIntegers⟩

end Outline

end InputDemand
